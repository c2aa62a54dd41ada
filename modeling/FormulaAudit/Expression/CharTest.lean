import FormulaAudit.Text.Blank
import FormulaAudit.Text.LetterCase
import FormulaAudit.Text.WordCharacter

/-!
Tests of single characters in written expressions. Characters are compared by code point. Where case
does not count, both sides are compared in lower case, and letters that differ in lower case only by
tradition count as one.
-/

set_option autoImplicit false

namespace FormulaAudit.Expression

/-- Which characters are letters, digits and blanks, and whether their case counts. -/
structure Alphabet where
  /-- Only those of ASCII. -/
  isAscii : Bool := false
  ignoresCase : Bool := false
deriving DecidableEq

/-- The classes of characters that have a name. -/
inductive Category where
  | digit
  | blank
  | word
deriving DecidableEq

/-- One entry of a set of characters. -/
inductive Entry where
  | code (code : Nat)
  | range (first last : Nat)
  | category (k : Category) (negated : Bool)
deriving DecidableEq

/-- A test of one character. -/
inductive CharTest where
  | any
  | withinLine
  | literal (alphabet : Alphabet) (negated : Bool) (code : Nat)
  | set (alphabet : Alphabet) (negated : Bool) (entries : List Entry)
deriving DecidableEq

def asciiLower (code : Nat) : Nat := if 65 ≤ code ∧ code ≤ 90 then code + 32 else code

open Text.LetterCase in
def lowerCode (code : Nat) : Nat :=
  if code < 128 then asciiLower code else image lowerShifts code

/-- The upper-case form, of which only the first character counts. -/
def upperCode (code : Nat) : Nat := ((Text.upper (Char.ofNat code)).head?.map Char.toNat).getD code

namespace Alphabet

/-- The code point in the form in which it is compared. -/
def fold (a : Alphabet) (code : Nat) : Nat :=
  if !a.ignoresCase then code else if a.isAscii then asciiLower code else lowerCode code

/-- The code points that count as one with a folded one. -/
def kin (a : Alphabet) (code : Nat) : List Nat :=
  if a.ignoresCase && !a.isAscii then
    (Text.LetterCase.caselessOrbits.find? (·.contains code)).getD [code]
  else [code]

/-- Code points of which those that fold to the given one are some. -/
def unfold (a : Alphabet) (code : Nat) : List Nat :=
  if !a.ignoresCase then [code]
  else if a.isAscii then [code, code - 32]
  else Text.LetterCase.preimages code

def holds (a : Alphabet) (k : Category) (code : Nat) : Bool :=
  let c := Char.ofNat code
  match k, a.isAscii with
  | .digit, true => c.isDigit
  | .digit, false => Text.isDecimalDigit c
  | .blank, true => Text.isAsciiBlank c
  | .blank, false => Text.isBlank c
  | .word, true => c.isAlphanum || c == '_'
  | .word, false => Text.isWordChar c

/-- The last code point of the first plane. -/
def lastOfPlane : Nat := 0xFFFF

/-- A range that reaches beyond the first plane also holds what it holds without regard to kin. -/
def inRange (a : Alphabet) (first last folded : Nat) : Bool :=
  if !a.ignoresCase then first ≤ folded && folded ≤ last
  else
    ((a.kin folded).any fun code ↦ (a.unfold code).any fun source ↦
        a.fold source = code && first ≤ source && source ≤ min last lastOfPlane)
      || (lastOfPlane < last && ((first ≤ folded && folded ≤ last)
        || (first ≤ upperCode folded && upperCode folded ≤ last)))

end Alphabet

/-- The entry holds a folded code point. A single code point beyond the first plane is taken as it
is written. -/
def Entry.holds (a : Alphabet) (folded : Nat) : Entry → Bool
  | code n =>
    if a.ignoresCase && Alphabet.lastOfPlane < n then folded == n
    else (a.kin (a.fold n)).contains folded
  | range first last => a.inRange first last folded
  | category k negated => negated != a.holds k folded

def CharTest.holds (c : Char) : CharTest → Bool
  | any => true
  | withinLine => c != '\n'
  | literal a negated code => negated != (a.kin (a.fold code)).contains (a.fold c.toNat)
  | set a negated entries => negated != entries.any (·.holds a (a.fold c.toNat))

end FormulaAudit.Expression
