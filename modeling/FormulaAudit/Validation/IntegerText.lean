import FormulaAudit.Number.Numeral

/-!
Integers in texts that come from outside. White space may stand around the integer and a plus sign
in front of it. Zeros in front go, with the underscores among them; so do decimal places that are
all zero, and single underscores in what is left. A hyphen may also follow the zeros in front. What
remains has to be an integer without superfluous zeros, of a limited length.
-/

set_option autoImplicit false

namespace FormulaAudit.Validation

/-- Why a text is taken for no integer. -/
inductive IntegerTextFault where
  | malformed
  | tooLong
deriving DecidableEq

/-- What follows zeros and underscores; `last` is the one before. Something has to remain, so the
last zero stays if nothing or a point follows. -/
def behindZeros? (last : Char) : List Char → Option (List Char)
  | [] => some [last]
  | c :: cs =>
    if c = '0' ∨ c = '_' then behindZeros? c cs
    else if c.isDigit ∨ c = '-' then some (c :: cs)
    else if c = '.' then some (last :: c :: cs)
    else none

/-- A text that starts with a digit, without the zeros in front. -/
def withoutZeros? : List Char → Option (List Char)
  | '0' :: cs => behindZeros? '0' cs
  | c :: cs => if c.isDigit then some (c :: cs) else none
  | [] => none

/-- The text without decimal places, if there are some and all are zero. -/
def withoutPlaces (cs : List Char) : List Char :=
  match cs.dropWhile (· ≠ '.') with
  | '.' :: c :: places => if (c :: places).all (· == '0') then cs.takeWhile (· ≠ '.') else cs
  | _ => cs

/-- Two underscores stand side by side. -/
def hasUnderscorePair : List Char → Bool
  | '_' :: '_' :: _ => true
  | _ :: cs => hasUnderscorePair cs
  | [] => false

/-- The text without underscores, unless one stands at an end or next to another. -/
def withoutUnderscores (cs : List Char) : List Char :=
  if cs.head? = some '_' ∨ cs.getLast? = some '_' ∨ hasUnderscorePair cs then cs
  else cs.filter (· ≠ '_')

/-- An integer without superfluous zeros. The sign and the digits up to the first character that is
none are counted before that character is looked at. -/
def strictInteger (cs : List Char) : Except IntegerTextFault Int :=
  let (negative, cs) := match cs with
    | '-' :: cs => (true, cs)
    | cs => (false, cs)
  let digits := match cs with
    | '0' :: _ => ['0']
    | cs => cs.takeWhile Char.isDigit
  if Numeral.digitLimit < digits.length + (if negative then 1 else 0) then .error .tooLong
  else if digits.isEmpty || digits.length < cs.length then .error .malformed
  else
    let value : Int := Numeral.digitsValue digits
    .ok (if negative then -value else value)

/-- The integer that a text stands for. -/
def integerOfText (text : String) : Except IntegerTextFault Int :=
  let cs := Text.trim Text.isWhiteSpace text.toList
  let (sign, cs) := match cs with
    | '-' :: cs => (['-'], cs)
    | '+' :: cs => ([], cs)
    | cs => ([], cs)
  match withoutZeros? cs with
  | some cs => strictInteger (sign ++ withoutUnderscores (withoutPlaces cs))
  | none => .error .malformed

end FormulaAudit.Validation
