import FormulaAudit.Text.LetterCase.Context
import FormulaAudit.Text.LetterCase.Table

/-!
Upper case, lower case and caseless identity of characters. Upper case is the full mapping, so one
character may become several; caseless identity is what a rule that ignores case goes by, and it
also joins the dotted and dotless i, the long s and the Kelvin sign to their ASCII letters.
-/

set_option autoImplicit false

namespace FormulaAudit.Text

open LetterCase

/-- The image of a code point under the first run that covers it. -/
def LetterCase.image (shifts : List Shift) (code : Nat) : Nat :=
  match shifts.find? (·.covers code) with
  | some shift => (code + shift.delta).toNat
  | none => code

/-- The upper-case form of a character. -/
def upper (c : Char) : List Char :=
  if c.toNat < 128 then [c.toUpper]
  else match upperExpansions.lookup c.toNat with
    | some codes => codes.map Char.ofNat
    | none => [Char.ofNat (image upperShifts c.toNat)]

def uppercase (cs : List Char) : List Char := cs.flatMap upper

@[simp] theorem uppercase_nil : uppercase [] = [] := rfl

@[simp] theorem uppercase_append (first second : List Char) :
    uppercase (first ++ second) = uppercase first ++ uppercase second := by
  simp [uppercase]

def uppercaseText (text : String) : String := String.ofList (uppercase text.toList)

/-- The lower-case form of a character, where that is one character. -/
def lower (c : Char) : Char :=
  if c.toNat < 128 then c.toLower else Char.ofNat (image lowerShifts c.toNat)

/-- The lower-case forms of the characters of a text; those before them come latest first. The
dotted capital i keeps its dot as a mark of its own, and a sigma has its final form at the end of a
word. -/
def lowercase (before : List Char) : List Char → List Char
  | [] => []
  | c :: cs =>
    let form :=
      if c = '\u0130' then ['i', '\u0307']
      else if c = '\u03A3' && startsCased before && !startsCased cs then ['\u03C2']
      else [lower c]
    form ++ lowercase (c :: before) cs

/-- The lower-case form of a text. -/
def lowercaseText (text : String) : String := String.ofList (lowercase [] text.toList)

/-- The code points whose lower-case form is the given one. -/
def LetterCase.preimages (code : Nat) : List Nat :=
  code :: lowerShifts.filterMap fun shift ↦
    let source := ((code : Int) - shift.delta).toNat
    if shift.covers source then some source else none

/-- The characters that caseless matching identifies with a character outside ASCII. -/
def LetterCase.orbit (c : Char) : List Char :=
  let code := (lower c).toNat
  let codes := (caselessOrbits.find? (·.contains code)).getD [code]
  (codes.flatMap preimages).map Char.ofNat

/-- The characters that caseless matching identifies with a character. -/
def caselessVariants (c : Char) : List Char :=
  if c.toNat < 128 then
    if c.isAlpha then
      c.toLower :: c.toUpper ::
        match c.toLower with
        | 'i' => ['\u0130', '\u0131']
        | 's' => ['\u017F']
        | 'k' => ['\u212A']
        | _ => []
    else [c]
  else orbit c

end FormulaAudit.Text
