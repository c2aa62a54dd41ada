import FormulaAudit.Category
import FormulaAudit.Features

/-!
The heuristic score of a formula: points for each feature, added up, and the category that a score
stands for. A tier table gives the points of the first bound that a value exceeds.
-/

set_option autoImplicit false

namespace FormulaAudit

/-- One row of a tier table: a value above the bound earns the points. -/
structure Tier where
  above : Int
  points : Nat

def Tier.pointsFor (value : Int) (tiers : List Tier) : Nat :=
  match tiers.find? (·.above < value) with
  | some tier => tier.points
  | none => 0

/-- The points that each feature of a formula earns. -/
structure Breakdown where
  functionCount : Nat
  ifCount : Nat
  crossSheet : Nat
  length : Nat
  complexFunctions : Nat
  logicalOperators : Nat
  commaCount : Nat

def Breakdown.total (b : Breakdown) : Nat :=
  b.functionCount + b.ifCount + b.crossSheet + b.length + b.complexFunctions + b.logicalOperators
    + b.commaCount

namespace Features

def functionCountTiers : List Tier := [⟨3, 3⟩, ⟨2, 2⟩, ⟨0, 1⟩]

def ifCountTiers : List Tier := [⟨2, 3⟩, ⟨1, 2⟩, ⟨0, 1⟩]

def lengthTiers : List Tier := [⟨150, 3⟩, ⟨100, 2⟩, ⟨50, 1⟩]

def commaCountTiers : List Tier := [⟨5, 2⟩, ⟨3, 1⟩]

def breakdown (f : Features) : Breakdown where
  functionCount := Tier.pointsFor f.functionCount functionCountTiers
  ifCount := Tier.pointsFor f.ifCount ifCountTiers
  crossSheet := if f.crossSheet then 1 else 0
  length := Tier.pointsFor f.length lengthTiers
  complexFunctions := f.complexFunctions.length
  logicalOperators := f.logicalOperators.length
  commaCount := Tier.pointsFor f.commaCount commaCountTiers

def score (f : Features) : Nat := f.breakdown.total

end Features

/-- The heuristic score of a formula. -/
def scoreOf (formula : String) : Nat := (Features.ofFormula formula).score

/-- Five points or more are complex, two or more medium. -/
def Category.ofScore (score : Int) : Category :=
  if 5 ≤ score then complex else if 2 ≤ score then medium else simple

end FormulaAudit
