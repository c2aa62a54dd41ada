import FormulaAudit.Json.Basic

/-!
The grammar of JSON, as a relation between values and the texts that write them. It follows the
grammar of the standard production by production and says nothing of how a text is read: blanks may
stand around values, commas and colons, a number has no superfluous zeros, and a string has no bare
control characters.
-/

set_option autoImplicit false

namespace FormulaAudit.Json

/-- White space. -/
def Blanks (cs : List Char) : Prop := ∀ c ∈ cs, c ∈ [' ', '\n', '\r', '\t']

/-! ### Strings -/

/-- A hexadecimal digit, in either case, and its value. -/
def HexDigit (value : Nat) (c : Char) : Prop :=
  value < 16 ∧ (c = value.digitChar ∨ c = value.digitChar.toUpper)

/-- Four hexadecimal digits. -/
inductive WritesUnit : Nat → List Char → Prop where
  | digits {v₁ v₂ v₃ v₄ : Nat} {a b c d : Char} (ha : HexDigit v₁ a) (hb : HexDigit v₂ b)
      (hc : HexDigit v₃ c) (hd : HexDigit v₄ d) :
      WritesUnit (((v₁ * 16 + v₂) * 16 + v₃) * 16 + v₄) [a, b, c, d]

/-- What stands behind a backslash, and the character that it stands for. -/
def shortEscapes : List (Char × Char) :=
  [('"', '"'), ('\\', '\\'), ('/', '/'), ('b', '\x08'), ('f', '\x0c'), ('n', '\n'), ('r', '\r'),
    ('t', '\t')]

/-- A character inside a string: itself, a short escape, the escape of its code, or the escapes of
two halves. The code of a half alone writes no character. -/
inductive WritesChar : Char → List Char → Prop where
  | plain {c : Char} (hcontrol : 0x20 ≤ c.toNat) (hquote : c ≠ '"') (hescape : c ≠ '\\') :
      WritesChar c [c]
  | short {mark c : Char} (hmark : (mark, c) ∈ shortEscapes) : WritesChar c ['\\', mark]
  | code {unit : Nat} {cs : List Char} (hunit : WritesUnit unit cs)
      (hwhole : unit < 0xD800 ∨ 0xE000 ≤ unit) : WritesChar (Char.ofNat unit) ('\\' :: 'u' :: cs)
  | halves {high low : Nat} {cs ds : List Char} (hhigh : WritesUnit high cs)
      (hfirst : 0xD800 ≤ high ∧ high < 0xDC00) (hlow : WritesUnit low ds)
      (hsecond : 0xDC00 ≤ low ∧ low < 0xE000) :
      WritesChar (Char.ofNat (0x10000 + (high - 0xD800) * 0x400 + (low - 0xDC00)))
        ('\\' :: 'u' :: (cs ++ '\\' :: 'u' :: ds))

/-- The characters between the quotes of a string. -/
inductive WritesChars : List Char → List Char → Prop where
  | nil : WritesChars [] []
  | cons {c : Char} {cs text more : List Char} (hc : WritesChar c text)
      (hcs : WritesChars cs more) : WritesChars (c :: cs) (text ++ more)

/-! ### Numbers -/

/-- One digit or more. -/
def Digits (cs : List Char) : Prop := cs ≠ [] ∧ ∀ c ∈ cs, c.isDigit = true

def digitsNumber (cs : List Char) : Nat := Nat.ofDigitChars 10 cs 0

/-- Digits without a superfluous zero in front. -/
def WholeDigits (cs : List Char) : Prop := Digits cs ∧ (1 < cs.length → cs.head? ≠ some '0')

def minusSign (negative : Bool) : List Char := if negative then ['-'] else []

/-- The digits behind the point, if there is one. -/
inductive WritesFraction : List Char → List Char → Prop where
  | absent : WritesFraction [] []
  | digits {cs : List Char} (hcs : Digits cs) : WritesFraction cs ('.' :: cs)

/-- An exponent, if there is one. -/
inductive WritesExponent : Option Int → List Char → Prop where
  | absent : WritesExponent none []
  | unsigned {mark : Char} {cs : List Char} (hmark : mark = 'e' ∨ mark = 'E') (hcs : Digits cs) :
      WritesExponent (some (digitsNumber cs)) (mark :: cs)
  | plus {mark : Char} {cs : List Char} (hmark : mark = 'e' ∨ mark = 'E') (hcs : Digits cs) :
      WritesExponent (some (digitsNumber cs)) (mark :: '+' :: cs)
  | minus {mark : Char} {cs : List Char} (hmark : mark = 'e' ∨ mark = 'E') (hcs : Digits cs) :
      WritesExponent (some (-digitsNumber cs)) (mark :: '-' :: cs)

/-- A number is whole if it is written without a point and without an exponent. -/
inductive WritesNumber : Json → List Char → Prop where
  | whole (negative : Bool) {cs : List Char} (hcs : WholeDigits cs) :
      WritesNumber (int (if negative then -digitsNumber cs else digitsNumber cs))
        (minusSign negative ++ cs)
  | decimal (negative : Bool) {cs fraction point exponentText : List Char} {exponent : Option Int}
      (hcs : WholeDigits cs) (hfraction : WritesFraction fraction point)
      (hexponent : WritesExponent exponent exponentText)
      (hsome : fraction ≠ [] ∨ exponent ≠ none) :
      WritesNumber
        (decimal negative ⟨digitsNumber (cs ++ fraction), exponent.getD 0 - fraction.length⟩)
        (minusSign negative ++ (cs ++ (point ++ exponentText)))

/-! ### Values -/

mutual

/-- A text writes a value. -/
inductive Writes : Json → List Char → Prop where
  | null : Writes null ['n', 'u', 'l', 'l']
  | true : Writes (bool true) ['t', 'r', 'u', 'e']
  | false : Writes (bool false) ['f', 'a', 'l', 's', 'e']
  | number {j : Json} {cs : List Char} (hnumber : WritesNumber j cs) : Writes j cs
  | str {s : String} {cs : List Char} (hcs : WritesChars s.toList cs) :
      Writes (str s) ('"' :: (cs ++ ['"']))
  | noItems {blanks : List Char} (hblanks : Blanks blanks) :
      Writes (arr []) ('[' :: (blanks ++ [']']))
  | items {items : List Json} {cs : List Char} (hitems : WritesItems items cs) :
      Writes (arr items) ('[' :: (cs ++ [']']))
  | noMembers {blanks : List Char} (hblanks : Blanks blanks) :
      Writes (obj []) ('\x7b' :: (blanks ++ ['\x7d']))
  | members {members : List (String × Json)} {cs : List Char} (hmembers : WritesMembers members cs) :
      Writes (obj members) ('\x7b' :: (cs ++ ['\x7d']))

/-- Items with commas between them and blanks around each. -/
inductive WritesItems : List Json → List Char → Prop where
  | last {item : Json} {before cs after : List Char} (hbefore : Blanks before)
      (hitem : Writes item cs) (hafter : Blanks after) :
      WritesItems [item] (before ++ (cs ++ after))
  | more {item : Json} {items : List Json} {before cs after more : List Char}
      (hbefore : Blanks before) (hitem : Writes item cs) (hafter : Blanks after)
      (hitems : WritesItems items more) :
      WritesItems (item :: items) (before ++ (cs ++ (after ++ ',' :: more)))

/-- Members with commas between them and blanks around each key and each value. -/
inductive WritesMembers : List (String × Json) → List Char → Prop where
  | last {key : String} {value : Json} {before name behind inner cs after : List Char}
      (hbefore : Blanks before) (hname : WritesChars key.toList name) (hbehind : Blanks behind)
      (hinner : Blanks inner) (hvalue : Writes value cs) (hafter : Blanks after) :
      WritesMembers [(key, value)]
        (before ++ '"' :: (name ++ '"' :: (behind ++ ':' :: (inner ++ (cs ++ after)))))
  | more {key : String} {value : Json} {members : List (String × Json)}
      {before name behind inner cs after more : List Char} (hbefore : Blanks before)
      (hname : WritesChars key.toList name) (hbehind : Blanks behind) (hinner : Blanks inner)
      (hvalue : Writes value cs) (hafter : Blanks after) (hmembers : WritesMembers members more) :
      WritesMembers ((key, value) :: members)
        (before ++ '"' :: (name ++ '"' ::
          (behind ++ ':' :: (inner ++ (cs ++ (after ++ ',' :: more))))))

end

/-- The text is a value with blanks around it. -/
def WritesText (j : Json) (text : String) : Prop :=
  ∃ before cs after, Blanks before ∧ Writes j cs ∧ Blanks after ∧
    text.toList = before ++ (cs ++ after)

end FormulaAudit.Json
