import FormulaAudit.Corpus

/-!
A tally gathers classified records one at a time. It keeps the views of the corpus up to date as it
goes, so that a snapshot costs nothing; a snapshot is the corpus of the records gathered since the
tally was last emptied, and nothing gathered later changes it.
-/

set_option autoImplicit false

namespace FormulaAudit

structure Tally where
  classifier : Classifier
  /-- The results so far, latest first. -/
  results : List Classified := []
  /-- One group for each category from the start, so that no result opens another. -/
  categories : Groups Category := Groups.byKey (·.category) Category.all []
  bySheet : Groups String := []
  functionNames : List String := []

/-- Puts a name into an ascending list, unless it is there. -/
def insertName (name : String) : List String → List String
  | [] => [name]
  | other :: names =>
    if name < other then name :: other :: names
    else if name = other then other :: names
    else other :: insertName name names

namespace Tally

def empty (classifier : Classifier) : Tally := { classifier }

def reset (t : Tally) : Tally := empty t.classifier

def size (t : Tally) : Nat := t.results.length

def addResult (t : Tally) (result : Classified) : Tally where
  classifier := t.classifier
  results := result :: t.results
  categories := t.categories.file result.category result
  bySheet := t.bySheet.file result.record.sheet result
  functionNames := result.features.functionNames.foldl (fun names name ↦ insertName name names)
    t.functionNames

def add (t : Tally) (record : Record) : Tally := t.addResult (t.classifier.classify record)

def addAll (t : Tally) (records : List Record) : Tally := records.foldl add t

def snapshot (t : Tally) : Corpus where
  results := t.results.reverse
  categories := t.categories
  bySheet := t.bySheet
  functionNames := t.functionNames

/-- The corpus that a tally makes of some records. -/
def aggregate (classifier : Classifier) (records : List Record) : Corpus :=
  ((empty classifier).addAll records).snapshot

/-- What may happen to a tally. -/
inductive Event where
  | add (record : Record)
  | addAll (records : List Record)
  | reset
  | snapshot
deriving DecidableEq

/-- The records gathered after an event, by those gathered before. -/
def gather (records : List Record) : Event → List Record
  | .add record => records ++ [record]
  | .addAll more => records ++ more
  | .reset => []
  | .snapshot => records

/-- The records gathered since the tally was last emptied. -/
def gathered (events : List Event) : List Record := events.foldl gather []

/-- A tally in use, with the snapshots that were handed out, in order. -/
structure Session where
  tally : Tally
  taken : List Corpus := []

namespace Session

def start (classifier : Classifier) : Session := { tally := empty classifier }

def step (s : Session) : Event → Session
  | .add record => { s with tally := s.tally.add record }
  | .addAll records => { s with tally := s.tally.addAll records }
  | .reset => { s with tally := s.tally.reset }
  | .snapshot => { s with taken := s.taken ++ [s.tally.snapshot] }

def run (s : Session) (events : List Event) : Session := events.foldl step s

end Session

end Tally

end FormulaAudit
