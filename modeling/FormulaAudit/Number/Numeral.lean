import FormulaAudit.Number.Decimal
import FormulaAudit.Text.Blank
import FormulaAudit.Text.DecimalDigit
import FormulaAudit.Text.Quoted

/-!
Reading numerals. White space may stand around a numeral, one underscore between two digits, and
the decimal digits of any script count as digits.
-/

set_option autoImplicit false

namespace FormulaAudit.Numeral

/-- Decimal digits of any script become ASCII digits. -/
def plainDigit (c : Char) : Char :=
  match Text.decimalValue? c with
  | some value => Char.ofNat (48 + value)
  | none => c

/-- The text without underscores, provided that each stands between two digits. -/
def joinDigits? : (previous : Char) → List Char → Option (List Char)
  | _, [] => some []
  | previous, '_' :: c :: cs =>
    if previous.isDigit && c.isDigit then (c :: ·) <$> joinDigits? c cs else none
  | _, c :: cs => if c = '_' then none else (c :: ·) <$> joinDigits? c cs

/-- The sign in front, and what follows it. -/
def splitSign : List Char → Bool × List Char
  | '-' :: cs => (true, cs)
  | '+' :: cs => (false, cs)
  | cs => (false, cs)

/-- The text without the blanks around it, with ASCII digits. -/
def plain (text : String) : List Char :=
  (Text.trim Text.isWhiteSpace text.toList).map plainDigit

def digitsValue (cs : List Char) : Nat := cs.foldl (fun n c ↦ 10 * n + (c.toNat - 48)) 0

/-- Why a text writes no integer. -/
inductive IntegerFault where
  | malformed
  | tooManyDigits (count : Nat)
deriving DecidableEq

/-- The greatest number of digits that an integer may have. -/
def digitLimit : Nat := 4300

/-- The message about a text that writes no integer; it quotes no more than two hundred
characters. -/
def IntegerFault.message (text : String) : IntegerFault → String
  | malformed =>
    "invalid literal for int() with base 10: "
      ++ String.ofList ((Text.quoted text).toList.take 200)
  | tooManyDigits count =>
    "Exceeds the limit (" ++ toString digitLimit
      ++ " digits) for integer string conversion: value has " ++ toString count
      ++ " digits; use sys.set_int_max_str_digits() to increase the limit"

/-- The integer that a text writes. Digits are counted before what follows them is looked at. -/
def readInteger (text : String) : Except IntegerFault Int :=
  let (negative, cs) := splitSign (plain text)
  let front := cs.takeWhile fun c ↦ c.isDigit || c == '_'
  match joinDigits? ' ' front with
  | none => .error .malformed
  | some digits =>
    if digitLimit < digits.length then .error (.tooManyDigits digits.length)
    else if digits.isEmpty || front.length < cs.length then .error .malformed
    else
      let value : Int := digitsValue digits
      .ok (if negative then -value else value)

def integer? (text : String) : Option Int := (readInteger text).toOption

/-- The exponent that a text writes; no text writes the exponent zero. -/
def exponent? : List Char → Option Int
  | [] => some 0
  | mark :: cs =>
    let (negative, digits) := splitSign cs
    if (mark = 'e' ∨ mark = 'E') ∧ digits ≠ [] ∧ digits.all Char.isDigit then
      let value : Int := digitsValue digits
      some (if negative then -value else value)
    else none

/-- The unsigned decimal that a text writes: digits with a point among them or beside them, and
perhaps an exponent. -/
def decimal? (cs : List Char) : Option Decimal :=
  let whole := cs.takeWhile Char.isDigit
  let rest := cs.drop whole.length
  let fraction := match rest with
    | '.' :: tail => tail.takeWhile Char.isDigit
    | _ => []
  let rest := match rest with
    | '.' :: tail => tail.drop fraction.length
    | _ => rest
  if whole.isEmpty && fraction.isEmpty then none
  else (exponent? rest).map fun e ↦ ⟨digitsValue (whole ++ fraction), e - fraction.length⟩

/-- The number that a text writes, as the nearest binary number. -/
def binary64? (text : String) : Option Binary64 := do
  let cs ← joinDigits? ' ' (plain text)
  let (negative, cs) := splitSign cs
  match String.ofList (cs.map Char.toLower) with
  | "inf" | "infinity" => return .infinite negative
  | "nan" => return .nan
  | _ => (decimal? cs).map (·.toBinary64 negative)

/-- The message about a text that writes no number. -/
def malformedNumber (text : String) : String :=
  "could not convert string to float: " ++ Text.quoted text

end FormulaAudit.Numeral
