import FormulaAudit.Classification

/-!
The corpus of an analysis: all classified records in the order of discovery, with the views that
reports need. A view by category or by sheet is the part of the corpus that belongs to it, in the
same order; sheets stand in the order in which they first appear.
-/

set_option autoImplicit false

namespace FormulaAudit

/-- Classified records under keys, in the order in which the keys were met first. -/
abbrev Groups (κ : Type) := List (κ × List Classified)

namespace Groups

variable {κ : Type} [DecidableEq κ]

/-- The results under a key; none if the key is not known. -/
def under (groups : Groups κ) (key : κ) : List Classified := (groups.lookup key).getD []

/-- Adds a result to the group of a key, or opens a group at the end. -/
def file (key : κ) (result : Classified) : Groups κ → Groups κ
  | [] => [(key, [result])]
  | (other, results) :: groups =>
    if other = key then (other, results ++ [result]) :: groups
    else (other, results) :: file key result groups

/-- The groups under some keys, each with the results that belong to its key. -/
def byKey (keyOf : Classified → κ) (keys : List κ) (results : List Classified) : Groups κ :=
  keys.map fun key ↦ (key, results.filter (keyOf · = key))

end Groups

/-- A sheet with its classified records. -/
abbrev SheetGroup := String × List Classified

structure Corpus where
  results : List Classified := []
  /-- One group for each category, filled or not. -/
  categories : Groups Category := Groups.byKey (·.category) Category.all []
  bySheet : Groups String := []
  /-- The functions called anywhere, ascending and each once. -/
  functionNames : List String := []

namespace Corpus

def empty : Corpus := {}

/-- The sheets of some results, in the order of first appearance. -/
def sheetsOf (results : List Classified) : List String :=
  (results.map (·.record.sheet)).eraseDups

/-- The names that some results call, ascending and each once. -/
def namesOf (results : List Classified) : List String :=
  ((results.flatMap (·.features.functionNames)).mergeSort fun a b ↦ decide (a ≤ b)).eraseReps

/-- The corpus of some results. -/
def ofResults (results : List Classified) : Corpus where
  results
  categories := Groups.byKey (·.category) Category.all results
  bySheet := Groups.byKey (·.record.sheet) (sheetsOf results) results
  functionNames := namesOf results

def ofRecords (classifier : Classifier) (records : List Record) : Corpus :=
  ofResults (records.map classifier.classify)

def total (c : Corpus) : Nat := c.results.length

def isEmpty (c : Corpus) : Bool := c.results.isEmpty

def sheetCount (c : Corpus) : Nat := c.bySheet.length

/-- The results of one category. -/
def byCategory (c : Corpus) (category : Category) : List Classified := c.categories.under category

def count (c : Corpus) (category : Category) : Nat := (c.byCategory category).length

/-- The results of one sheet; none if the sheet is not known. -/
def sheet (c : Corpus) (name : String) : List Classified := c.bySheet.under name

/-- How many formulas of a sheet belong to a category. -/
def sheetCategoryCount (c : Corpus) (name : String) (category : Category) : Nat :=
  (c.sheet name).countP (·.category = category)

/-- The sheets, largest first; sheets of one size keep their order. -/
def sheetsBySize (c : Corpus) : List SheetGroup :=
  c.bySheet.mergeSort fun a b ↦ decide (b.2.length ≤ a.2.length)

end Corpus

end FormulaAudit
