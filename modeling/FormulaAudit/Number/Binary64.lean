import FormulaAudit.Number.Power
import FormulaAudit.Number.Rounding

/-!
Binary floating-point numbers of 64 bits. A number is a whole significand times a power of two;
every operation takes the exact result and rounds it once, to the nearest number with at most 53
significant bits, a half to the even significand. `Binary64.ofRatio` is that rounding.
-/

set_option autoImplicit false

namespace FormulaAudit

inductive Binary64 where
  /-- The value `significand * 2 ^ exponent`, negated if `negative`. -/
  | finite (negative : Bool) (significand : Nat) (exponent : Int)
  | infinite (negative : Bool)
  | nan
deriving DecidableEq

namespace Binary64

def zero (negative : Bool) : Binary64 := finite negative 0 0

/-- The greatest `k` with `2 ^ k ≤ num / den`. -/
def magnitude (num den : Nat) : Int :=
  let guess : Int := (num.log2 : Int) - den.log2
  if num * power 2 (-guess) < den * power 2 guess then guess - 1 else guess

/-- The exponent of the last of 53 significant bits, but not below the least exponent there is. -/
def lastPlace (num den : Nat) : Int := max (magnitude num den - 52) (-1074)

/-- The number nearest to `num / den`, negated if asked for. -/
def ofRatio (negative : Bool) (num den : Nat) : Binary64 :=
  if num = 0 then zero negative
  else
    let place := lastPlace num den
    let significand := roundHalfEven (num * power 2 (-place)) (den * power 2 place)
    if significand = 0 then zero negative
    else
      let carried := significand = power 2 53
      let significand := if carried then power 2 52 else significand
      let place := if carried then place + 1 else place
      if 971 < place then infinite negative else finite negative significand place

def ofInt (n : Int) : Binary64 := ofRatio (n < 0) n.natAbs 1

/-- The quotient of two integers, or `none` if it is beyond the greatest number. The divisor is not
zero; a zero over a negative number is a negative zero. -/
def quotient? (a b : Int) : Option Binary64 :=
  match ofRatio ((a < 0) != (b < 0)) a.natAbs b.natAbs with
  | infinite _ => none
  | x => some x

def mul : Binary64 → Binary64 → Binary64
  | finite s m e, finite t n f =>
    ofRatio (s != t) (m * n * power 2 (e + f)) (power 2 (-(e + f)))
  | nan, _ => nan
  | _, nan => nan
  | infinite s, finite t n _ => if n = 0 then nan else infinite (s != t)
  | finite s m _, infinite t => if m = 0 then nan else infinite (s != t)
  | infinite s, infinite t => infinite (s != t)

instance : Mul Binary64 := ⟨mul⟩

/-- The greatest integer that is not above a finite number. -/
def floor? : Binary64 → Option Int
  | finite negative m e =>
    let num : Int := m * power 2 e
    some ((if negative then -num else num).fdiv (power 2 (-e)))
  | _ => none

/-- The least integer that is not below a finite number. -/
def ceil? : Binary64 → Option Int
  | finite negative m e => (finite (!negative) m e).floor?.map (-·)
  | _ => none

/-- The integer is greater than the number. -/
def isBelow (x : Binary64) (n : Int) : Bool :=
  match x with
  | finite negative m e =>
    let num : Int := m * power 2 e
    (if negative then -num else num) < n * power 2 (-e)
  | infinite negative => negative
  | nan => false

/-- The share `tenths / 10` as the nearest number. -/
def ofTenths (tenths : Nat) : Binary64 := ofRatio false tenths 10

end Binary64

end FormulaAudit
