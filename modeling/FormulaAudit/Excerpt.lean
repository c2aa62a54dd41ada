/-!
Excerpts: what a signed limit shows of a list. A limit that is not negative shows that many items
from the front; a negative one leaves out that many items at the end.
-/

set_option autoImplicit false

namespace FormulaAudit

variable {α : Type}

/-- How many of `total` items a limit shows. -/
def excerptLength (limit : Int) (total : Nat) : Nat :=
  if 0 ≤ limit then min limit.toNat total else total - limit.natAbs

def excerpt (limit : Int) (items : List α) : List α :=
  items.take (excerptLength limit items.length)

@[simp] theorem length_excerpt (limit : Int) (items : List α) :
    (excerpt limit items).length = excerptLength limit items.length := by
  simp only [excerpt, excerptLength, List.length_take]
  split <;> omega

theorem excerpt_of_nonneg {limit : Int} (hlimit : 0 ≤ limit) (items : List α) :
    excerpt limit items = items.take limit.toNat := by
  rw [excerpt, excerptLength, if_pos hlimit, ← List.take_eq_take_min]

theorem excerpt_prefix (limit : Int) (items : List α) : excerpt limit items <+: items :=
  List.take_prefix _ _

end FormulaAudit
