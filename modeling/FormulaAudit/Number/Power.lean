/-!
Powers with an integer for the exponent, as the two sides of a fraction: `base ^ k` is the quotient
of `power base k` and `power base (-k)`, one of which is 1. A comparison or a division of numbers
that are scaled by such powers is then one of natural numbers.
-/

set_option autoImplicit false

namespace FormulaAudit

/-- The power of a base, or 1 if the exponent is below zero. -/
def power (base : Nat) (k : Int) : Nat := Nat.pow base k.toNat

theorem power_pos {base : Nat} (h : 0 < base) (k : Int) : 0 < power base k := Nat.pow_pos h

end FormulaAudit
