import FormulaAudit.Number.Decimal

/-!
The shortest text of a number: the fewest decimal digits that read back as the number and, of those,
the ones nearest to it. The point is written in place for values from one ten-thousandth to below
ten to the sixteenth; other values have an exponent of at least two digits with its sign.
-/

set_option autoImplicit false

namespace FormulaAudit

namespace Binary64

/-- The comparison `significand * 2 ^ exponent < 10 ^ place`. -/
def belowPowerOfTen (significand : Nat) (exponent place : Int) : Bool :=
  significand * power 2 exponent * power 10 (-place) < power 10 place * power 2 (-exponent)

/-- The least power of ten that is above the value. The binary magnitude fixes it up to two
steps. -/
def powerAbove (significand : Nat) (exponent : Int) : Int :=
  let guess := ((significand.log2 + exponent) * 30103).fdiv 100000
  if belowPowerOfTen significand exponent guess then guess
  else if belowPowerOfTen significand exponent (guess + 1) then guess + 1
  else guess + 2

/-- The value rounded down to a multiple of `10 ^ place`, and twice the remainder compared with one
such unit. -/
def onGrid (significand : Nat) (exponent place : Int) : Nat × Ordering :=
  let num := significand * power 2 exponent * power 10 (-place)
  let den := power 2 (-exponent) * power 10 place
  (num / den, compare (2 * (num % den)) den)

/-- The decimal with digits down to `place` that reads back as the value, the nearer one of two. -/
def onGrid? (significand : Nat) (exponent place : Int) : Option Decimal :=
  let (below, half) := onGrid significand exponent place
  let value := finite false significand exponent
  let low : Decimal := ⟨below, place⟩
  let high : Decimal := ⟨below + 1, place⟩
  let nearer := match half with
    | .lt => [low, high]
    | .gt => [high, low]
    | .eq => if below % 2 = 0 then [low, high] else [high, low]
  nearer.find? fun d ↦ d.toBinary64 false = value

/-- The fewest digits that read back as a positive value. -/
def shortestDecimal (significand : Nat) (exponent : Int) : Decimal :=
  let above := powerAbove significand exponent
  let found := (List.range 17).findSome? fun (n : Nat) ↦
    onGrid? significand exponent (above - (n + 1))
  match found with
  | some d => d.strip 17
  | none =>
    -- The value itself, written out.
    ⟨significand * power 2 exponent * power 5 (-exponent), -(-exponent).toNat⟩

/-- Digits with the point in its place, or with an exponent. -/
def layout (d : Decimal) : List Char :=
  let digits := Nat.toDigits 10 d.digits
  let lead : Int := d.exponent + digits.length - 1
  if -4 ≤ lead ∧ lead < 16 then
    if lead < 0 then '0' :: '.' :: List.replicate (-lead - 1).toNat '0' ++ digits
    else
      let whole := lead.toNat + 1
      let digits := digits ++ List.replicate (whole + 1 - digits.length) '0'
      digits.take whole ++ '.' :: digits.drop whole
  else
    let rest := digits.drop 1
    let shown := Nat.toDigits 10 lead.natAbs
    digits.take 1 ++ (if rest.isEmpty then [] else '.' :: rest)
      ++ ['e', if lead < 0 then '-' else '+'] ++ List.replicate (2 - shown.length) '0' ++ shown

def shortest : Binary64 → String
  | finite negative m e =>
    let digits := if m = 0 then ['0', '.', '0'] else layout (shortestDecimal m e)
    String.ofList ((if negative then ['-'] else []) ++ digits)
  | infinite negative => if negative then "-inf" else "inf"
  | nan => "nan"

end Binary64

end FormulaAudit
