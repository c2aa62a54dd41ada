/-!
The complexity categories of formulas, from simple to complex.
-/

set_option autoImplicit false

namespace FormulaAudit

inductive Category where
  | simple
  | medium
  | complex
deriving DecidableEq, Repr

namespace Category

/-- All categories, in the order in which reports list them. -/
def all : List Category := [simple, medium, complex]

theorem mem_all (c : Category) : c ∈ all := by cases c <;> simp [all]

/-- The place of a category in the order from simple to complex. -/
def rank : Category → Nat
  | simple => 0
  | medium => 1
  | complex => 2

instance : LE Category := ⟨fun a b ↦ a.rank ≤ b.rank⟩

instance (a b : Category) : Decidable (a ≤ b) := inferInstanceAs (Decidable (a.rank ≤ b.rank))

/-- The name in data files and messages. -/
def name : Category → String
  | simple => "SIMPLE"
  | medium => "MEDIUM"
  | complex => "COMPLEX"

/-- The name in running text. -/
def label : Category → String
  | simple => "Simple"
  | medium => "Medium"
  | complex => "Complex"

def lowerName : Category → String
  | simple => "simple"
  | medium => "medium"
  | complex => "complex"

def ofName? (name : String) : Option Category := all.find? (·.name == name)

end Category

end FormulaAudit
