import FormulaAudit.Json.Basic

/-!
Reading JSON. The reader takes exactly the texts of the JSON grammar: blanks around tokens, numbers
without superfluous zeros, strings without bare control characters, escapes of surrogates only in
pairs, and nothing after the value.
-/

set_option autoImplicit false

namespace FormulaAudit.Json

def isJsonBlank (c : Char) : Bool := c == ' ' || c == '\n' || c == '\r' || c == '\t'

def skipBlanks (cs : List Char) : List Char := cs.dropWhile isJsonBlank

def hexValue? (c : Char) : Option Nat :=
  if c.isDigit then some (c.toNat - 48)
  else if 'a' ≤ c ∧ c ≤ 'f' then some (c.toNat - 87)
  else if 'A' ≤ c ∧ c ≤ 'F' then some (c.toNat - 55)
  else none

/-- The value of four hexadecimal digits. -/
def hexUnit? (a b c d : Char) : Option Nat := do
  let a ← hexValue? a
  let b ← hexValue? b
  let c ← hexValue? c
  let d ← hexValue? d
  return ((a * 16 + b) * 16 + c) * 16 + d

def unescape? : Char → Option Char
  | '"' => some '"'
  | '\\' => some '\\'
  | '/' => some '/'
  | 'b' => some '\x08'
  | 'f' => some '\x0c'
  | 'n' => some '\n'
  | 'r' => some '\r'
  | 't' => some '\t'
  | _ => none

/-- The rest of a string up to its closing quote, and what follows it. -/
def stringTail? : List Char → Option (List Char × List Char)
  | [] => none
  | '"' :: rest => some ([], rest)
  | '\\' :: 'u' :: a :: b :: c :: d :: rest => do
    let unit ← hexUnit? a b c d
    if 0xD800 ≤ unit ∧ unit < 0xDC00 then
      match rest with
      | '\\' :: 'u' :: a :: b :: c :: d :: rest => do
        let low ← hexUnit? a b c d
        if 0xDC00 ≤ low ∧ low < 0xE000 then
          let (cs, rest) ← stringTail? rest
          return (Char.ofNat (0x10000 + (unit - 0xD800) * 0x400 + (low - 0xDC00)) :: cs, rest)
        else none
      | _ => none
    else if 0xDC00 ≤ unit ∧ unit < 0xE000 then none
    else do
      let (cs, rest) ← stringTail? rest
      return (Char.ofNat unit :: cs, rest)
  | '\\' :: mark :: rest => do
    let c ← unescape? mark
    let (cs, rest) ← stringTail? rest
    return (c :: cs, rest)
  | c :: rest =>
    if c.toNat < 0x20 ∨ c = '\\' then none
    else do
      let (cs, rest) ← stringTail? rest
      return (c :: cs, rest)

def digitsValue (cs : List Char) : Nat := cs.foldl (fun n c ↦ 10 * n + (c.toNat - 48)) 0

/-- At least one digit, and what follows the digits. -/
def digits? (cs : List Char) : Option (List Char × List Char) :=
  let digits := cs.takeWhile Char.isDigit
  if digits.isEmpty then none else some (digits, cs.drop digits.length)

def signed (negative : Bool) (n : Nat) : Int := if negative then -n else n

/-- An exponent, if there is one, and what follows it. -/
def exponentTail? : List Char → Option (Option Int × List Char)
  | mark :: cs =>
    if mark = 'e' ∨ mark = 'E' then do
      let (negative, cs) := match cs with
        | '-' :: cs => (true, cs)
        | '+' :: cs => (false, cs)
        | cs => (false, cs)
      let (digits, rest) ← digits? cs
      return (some (signed negative (digitsValue digits)), rest)
    else some (none, mark :: cs)
  | [] => some (none, [])

/-- An unsigned number, and what follows it. -/
def numberTail? (negative : Bool) (cs : List Char) : Option (Json × List Char) := do
  let (whole, rest) ← digits? cs
  if 1 < whole.length ∧ whole.head? = some '0' then none
  let (fraction, rest) ← match rest with
    | '.' :: rest => digits? rest
    | rest => some ([], rest)
  let (exponent, rest) ← exponentTail? rest
  if fraction.isEmpty ∧ exponent.isNone then
    return (int (signed negative (digitsValue whole)), rest)
  else
    let d : Decimal := ⟨digitsValue (whole ++ fraction), exponent.getD 0 - fraction.length⟩
    return (decimal negative d, rest)

mutual

/-- A value at the front of a text, and what follows it. Each call takes at least one character, so
the length of the text suffices as `fuel`. -/
def readValue? : (fuel : Nat) → List Char → Option (Json × List Char)
  | 0, _ => none
  | fuel + 1, cs =>
    match skipBlanks cs with
    | 'n' :: 'u' :: 'l' :: 'l' :: rest => some (null, rest)
    | 't' :: 'r' :: 'u' :: 'e' :: rest => some (bool true, rest)
    | 'f' :: 'a' :: 'l' :: 's' :: 'e' :: rest => some (bool false, rest)
    | '"' :: rest => (stringTail? rest).map fun (s, rest) ↦ (str (String.ofList s), rest)
    | '-' :: rest => numberTail? true rest
    | '[' :: rest =>
      match skipBlanks rest with
      | ']' :: rest => some (arr [], rest)
      | rest => (readItems? fuel rest).map fun (items, rest) ↦ (arr items, rest)
    | '{' :: rest =>
      match skipBlanks rest with
      | '}' :: rest => some (obj [], rest)
      | rest => (readMembers? fuel rest).map fun (members, rest) ↦ (obj members, rest)
    | rest => numberTail? false rest

/-- The items of an array up to its closing bracket. -/
def readItems? : (fuel : Nat) → List Char → Option (List Json × List Char)
  | 0, _ => none
  | fuel + 1, cs => do
    let (item, rest) ← readValue? fuel cs
    match skipBlanks rest with
    | ']' :: rest => return ([item], rest)
    | ',' :: rest =>
      let (items, rest) ← readItems? fuel rest
      return (item :: items, rest)
    | _ => none

/-- The members of an object up to its closing brace. -/
def readMembers? : (fuel : Nat) → List Char → Option (List (String × Json) × List Char)
  | 0, _ => none
  | fuel + 1, cs => do
    let '"' :: rest := skipBlanks cs | none
    let (key, rest) ← stringTail? rest
    let ':' :: rest := skipBlanks rest | none
    let (value, rest) ← readValue? fuel rest
    match skipBlanks rest with
    | '}' :: rest => return ([(String.ofList key, value)], rest)
    | ',' :: rest =>
      let (members, rest) ← readMembers? fuel rest
      return ((String.ofList key, value) :: members, rest)
    | _ => none

end

/-- The value that a text writes. -/
def parse? (text : String) : Option Json :=
  match readValue? (2 * text.length + 1) text.toList with
  | some (value, rest) => if (skipBlanks rest).isEmpty then some value else none
  | none => none

end FormulaAudit.Json
