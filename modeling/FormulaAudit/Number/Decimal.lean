import FormulaAudit.Number.Binary64

/-!
Decimal numbers with an exponent, and the binary numbers nearest to them. Decimals whose leading
digit lies far outside the range of binary numbers are not worked out, since they are beyond the
greatest number or vanish.
-/

set_option autoImplicit false

namespace FormulaAudit

/-- The value `digits * 10 ^ exponent`. -/
structure Decimal where
  digits : Nat
  exponent : Int
deriving DecidableEq

namespace Decimal

/-- The number of digits written. -/
def width (d : Decimal) : Nat := (Nat.toDigits 10 d.digits).length

/-- The nearest binary number, negated if asked for. -/
def toBinary64 (negative : Bool) (d : Decimal) : Binary64 :=
  if d.digits = 0 then .zero negative
  else if 310 < d.width + d.exponent then .infinite negative
  else if d.width + d.exponent < -330 then .zero negative
  else .ofRatio negative (d.digits * power 10 d.exponent) (power 10 (-d.exponent))

/-- The same value without zeros at the end of the digits. At most `rounds` zeros go. -/
def strip : (rounds : Nat) → Decimal → Decimal
  | 0, d => d
  | rounds + 1, d =>
    if d.digits ≠ 0 ∧ d.digits % 10 = 0 then strip rounds ⟨d.digits / 10, d.exponent + 1⟩ else d

end Decimal

end FormulaAudit
