import FormulaAudit.Number.Binary64

/-!
Numbers with a fixed number of decimal places. The exact binary value is rounded, a half to the
even neighbour; the sign stays even where all digits shown are zero.
-/

set_option autoImplicit false

namespace FormulaAudit

/-- The digits of a natural number with the last `places` of them behind a point. -/
def placeDigits (places number : Nat) : List Char :=
  let digits := Nat.toDigits 10 number
  let digits := List.replicate (places + 1 - digits.length) '0' ++ digits
  if places = 0 then digits
  else digits.take (digits.length - places) ++ '.' :: digits.drop (digits.length - places)

def Binary64.fixedPlaces (places : Nat) : Binary64 → String
  | finite negative m e =>
    let units := roundHalfEven (m * power 10 places * power 2 e) (power 2 (-e))
    String.ofList ((if negative then ['-'] else []) ++ placeDigits places units)
  | infinite negative => if negative then "-inf" else "inf"
  | nan => "nan"

end FormulaAudit
