import FormulaAudit.Number.FixedPlaces
import FormulaAudit.Share

/-!
The plan for moving the formulas of a corpus elsewhere, in three phases. Medium and complex formulas
are split over two phases each by shares of tenths; the effort and the time of a phase are fixed.
-/

set_option autoImplicit false

namespace FormulaAudit

inductive Risk where
  | low
  | medium
  | high
deriving DecidableEq

def Risk.label : Risk → String
  | low => "Low"
  | medium => "Medium"
  | high => "High"

/-- A range of person-days. -/
structure Effort where
  least : Int
  most : Int

def Effort.label (e : Effort) : String := toString e.least ++ "-" ++ toString e.most

structure Phase where
  number : Nat
  name : String
  /-- How many formulas the phase moves. -/
  target : Int
  description : String
  effort : Effort
  timeline : String
  risk : Risk

/-- Why a coverage has no number. -/
inductive CoverageError where
  | tooLarge
deriving DecidableEq

def CoverageError.message : CoverageError → String
  | tooLarge => "integer division result too large for a float"

/-- The part of so many formulas that a phase moves, in per cent; zero of an empty corpus. -/
def coverage (target total : Int) : Except CoverageError Binary64 :=
  if total = 0 then .ok (.zero false)
  else match Binary64.quotient? target total with
    | some share => .ok (share * .ofInt 100)
    | none => .error .tooLarge

/-- The part of so many formulas that a phase moves, as a whole number of per cent. -/
def Phase.coverageText (phase : Phase) (total : Nat) : String :=
  match coverage phase.target total with
  | .ok share => share.fixedPlaces 0
  | .error e => e.message

/-- So many tenths of a count, rounded down. -/
def tenthsBelow (count tenths : Nat) : Nat :=
  ((Binary64.ofInt count * .ofTenths tenths).floor?.getD 0).toNat

/-- So many tenths of a count, rounded up. -/
def tenthsAbove (count tenths : Nat) : Nat :=
  ((Binary64.ofInt count * .ofTenths tenths).ceil?.getD 0).toNat

structure MigrationPlan where
  total : Nat
  essentialMedium : Nat
  remainingMedium : Nat
  selectedComplex : Nat
  remainingComplex : Nat
  foundation : Phase
  enhancement : Phase
  completion : Phase

namespace MigrationPlan

def phases (plan : MigrationPlan) : List Phase :=
  [plan.foundation, plan.enhancement, plan.completion]

def totalEffort : Effort := ⟨75, 110⟩

/-- The plan for so many formulas of each category. -/
def ofCounts (simple medium complex : Nat) : MigrationPlan :=
  let essentialMedium := tenthsBelow medium 4
  let remainingMedium := tenthsAbove medium 6
  let selectedComplex := tenthsBelow complex 3
  let remainingComplex := tenthsAbove complex 7
  { total := simple + medium + complex
    essentialMedium, remainingMedium, selectedComplex, remainingComplex
    foundation :=
      { number := 1
        name := "MVP Foundation"
        target := simple + essentialMedium
        description := s!"{simple} simple + {essentialMedium} essential medium"
        effort := ⟨20, 30⟩
        timeline := "Months 1-4"
        risk := .low }
    enhancement :=
      { number := 2
        name := "Enhanced Features"
        target := remainingMedium + selectedComplex
        description := s!"{remainingMedium} remaining medium + {selectedComplex} selected complex"
        effort := ⟨25, 35⟩
        timeline := "Months 5-7"
        risk := .medium }
    completion :=
      { number := 3
        name := "Complete Migration"
        target := remainingComplex
        description := s!"{remainingComplex} remaining complex"
        effort := ⟨30, 45⟩
        timeline := "Months 8-10"
        risk := .high } }

end MigrationPlan

def Corpus.migrationPlan (c : Corpus) : MigrationPlan :=
  { MigrationPlan.ofCounts (c.count .simple) (c.count .medium) (c.count .complex) with
    total := c.total }

end FormulaAudit
