import FormulaAudit.Text.Template.Directive

/-!
Filling in templates. A template is text with directives that name entries; two percent signs stand
for one. A directive without a name shows what has not been shown yet.
-/

set_option autoImplicit false

namespace FormulaAudit.Text.Template

/-- A body in the width of a style. The sign and the mark of a number's base go in front of zeros
that fill the width, and behind blanks that do. -/
def Style.lay (s : Style) (isNumber : Bool) (lead body : List Char) : List Char :=
  let room := s.width - (lead.length + body.length)
  if s.leftJustified then lead ++ body ++ List.replicate room ' '
  else if isNumber && s.zeroFilled then lead ++ List.replicate room '0' ++ body
  else List.replicate room ' ' ++ lead ++ body

/-- The sign of a number that is not negative. -/
def Style.sign (s : Style) : List Char := if s.signed then ['+'] else if s.spaced then [' '] else []

/-- A text, cut to the precision. -/
def Style.layText (s : Style) (text : String) : List Char :=
  let cs := text.toList
  s.lay false [] (s.precision.elim cs cs.take)

/-- A whole number below ten in some base; the alternate form names the base. -/
def Style.layInteger (s : Style) (letter : Char) (n : Nat) : List Char :=
  let digits := Nat.toDigits 10 n
  let zeros := List.replicate (s.precision.getD 0 - digits.length) '0'
  let base := if s.alternate ∧ letter ∈ ['o', 'x', 'X'] then ['0', letter] else []
  s.lay true (s.sign ++ base) (zeros ++ digits)

/-- A whole number below ten as a real number. The alternate form always has a point, and keeps the
zeros of the general form. -/
def Style.layReal (s : Style) (letter : Char) (n : Nat) : List Char :=
  let isGeneral := letter.toLower = 'g'
  let precision := s.precision.getD 6
  let places :=
    if !isGeneral then precision else if s.alternate then max precision 1 - 1 else 0
  let point := if s.alternate || 0 < places then ['.'] else []
  let exponent :=
    if letter.toLower = 'e' then letter :: ['+', '0', '0'] else []
  s.lay true s.sign (Nat.toDigits 10 n ++ point ++ List.replicate places '0' ++ exponent)

/-- The character that a subject is or whose code it is. -/
def Subject.char? (subject : Subject) : Option Char :=
  match subject, subject.number? with
  | .entry (.text s), _ =>
    match s.toList with
    | [c] => some c
    | _ => none
  | _, some n => some (Char.ofNat n)
  | _, none => none

/-- How a subject is shown by a directive whose letter stands at an index of the template. -/
def Style.show (s : Style) (subject : Subject) (letter : Char) (index : Nat) :
    Except Fault (List Char) :=
  match letter with
  | 's' => .ok (s.layText subject.plain)
  | 'r' => .ok (s.layText (subject.quotedBy quoted))
  | 'a' => .ok (s.layText (subject.quotedBy quotedAscii))
  | 'd' | 'i' | 'u' =>
    match subject.number? with
    | some n => .ok (s.layInteger letter n)
    | none => .error (.notANumber letter subject.kindName)
  | 'o' | 'x' | 'X' =>
    match subject.number? with
    | some n => .ok (s.layInteger letter n)
    | none => .error (.notAnInteger letter subject.kindName)
  | 'e' | 'E' | 'f' | 'F' | 'g' | 'G' =>
    match subject.number? with
    | some n => .ok (s.layReal letter n)
    | none => .error (.notReal subject.kindName)
  | 'c' =>
    match subject.char? with
    | some c => .ok (s.lay false [] [c])
    | none => .error .notACharacter
  | _ => .error (.unknownLetter letter index)

/-- Fills in what is left of a template of a given length. Each directive takes a character, so the
length suffices as `fuel`. -/
def fillFrom (entries : Entries) (length : Nat) :
    (fuel : Nat) → Current → List Char → Except Fault (List Char)
  | 0, _, _ => .ok []
  | _, _, [] => .ok []
  | fuel + 1, current, '%' :: '%' :: cs => do
    return '%' :: (← fillFrom entries length fuel current cs)
  | fuel + 1, current, '%' :: cs => do
    let (d, rest) ← Directive.take entries current cs
    if d.current.isUsed then .error .nothingToShow
    else
      let shown ← d.style.show d.current.subject d.letter (length - rest.length - 1)
      return shown ++ (← fillFrom entries length fuel { d.current with isUsed := true } rest)
  | fuel + 1, current, c :: cs => do return c :: (← fillFrom entries length fuel current cs)

/-- The template with its directives filled in. -/
def fill (entries : Entries) (template : String) : Except Fault String :=
  let cs := template.toList
  (fillFrom entries cs.length (cs.length + 1) ⟨.whole entries, false⟩ cs).map String.ofList

end FormulaAudit.Text.Template
