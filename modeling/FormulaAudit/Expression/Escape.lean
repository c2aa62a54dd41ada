import FormulaAudit.Expression.Reading

/-!
What a backslash stands for in a written expression: a class of characters, a place, a character by
its code or its name, or a group that is to be recalled. Sets of characters have escapes of their
own.
-/

set_option autoImplicit false

namespace FormulaAudit.Expression

/-- A part of an expression. Tests, places and recalled groups can be told to be the same. -/
inductive Piece where
  | test (t : CharTest)
  | place (a : Anchor)
  | groupText (alphabet : Alphabet) (number : Nat)
  | other (e : Expression)

namespace Piece

def toExpression : Piece → Expression
  | test t => .one t
  | place a => .place a
  | groupText alphabet number => .groupText alphabet number
  | other e => e

def isSame : Piece → Piece → Bool
  | test t, test u => t = u
  | place a, place b => a = b
  | groupText a m, groupText b n => a = b ∧ m = n
  | _, _ => false

end Piece

def sequenceOf (pieces : List Piece) : Expression := sequence (pieces.map Piece.toExpression)

def category? : Char → Option Entry
  | 'd' => some (.category .digit false)
  | 'D' => some (.category .digit true)
  | 's' => some (.category .blank false)
  | 'S' => some (.category .blank true)
  | 'w' => some (.category .word false)
  | 'W' => some (.category .word true)
  | _ => none

def anchor? (flags : Flags) : Char → Option Anchor
  | 'A' => some .textStart
  | 'Z' => some .textEnd
  | 'b' => some (.boundary flags.alphabet.isAscii false)
  | 'B' => some (.boundary flags.alphabet.isAscii true)
  | _ => none

/-- The controls that have a letter. -/
def control? : Char → Option Nat
  | 'a' => some 0x07
  | 'f' => some 0x0C
  | 'n' => some 0x0A
  | 'r' => some 0x0D
  | 't' => some 0x09
  | 'v' => some 0x0B
  | _ => none

def isOctalDigit (c : Char) : Bool := '0' ≤ c && c ≤ '7'

def isHexDigit (c : Char) : Bool :=
  c.isDigit || ('a' ≤ c && c ≤ 'f') || ('A' ≤ c && c ≤ 'F')

def digitValue (c : Char) : Nat :=
  if c.isDigit then c.toNat - 48 else c.toLower.toNat - 87

def valueIn (base : Nat) (digits : List Char) : Nat :=
  digits.foldl (fun n c ↦ base * n + digitValue c) 0

namespace Read

/-- A code of exactly so many hexadecimal digits. -/
def hexCode (width : Nat) : Read Nat := do
  let digits ← takeWhile width isHexDigit
  if digits.length < width then malformed
  let code := valueIn 16 digits
  if 0x10FFFF < code then malformed
  return code

/-- An octal code of one byte. -/
def octalCode (digits : List Char) : Read Nat := do
  let code := valueIn 8 digits
  if 0xFF < code then malformed
  return code

/-- The code of the character whose name stands between braces. -/
def namedCode : Read Nat := do
  expect '{'
  let name ← takeName '}'
  let c ← orMalformed ((← get).characterNamed name)
  return c.toNat

/-- The code of the character that an escape with no other meaning stands for. -/
def escapedCode (c : Char) : Read Nat :=
  match control? c with
  | some code => return code
  | none =>
    match c with
    | 'x' => hexCode 2
    | 'u' => hexCode 4
    | 'U' => hexCode 8
    | 'N' => namedCode
    | _ => if c.isAlphanum then malformed else return c.toNat

/-- An escape inside a set. -/
def classEscape (c : Char) : Read Entry := do
  if let some entry := category? c then return entry
  if c = 'b' then return .code 0x08
  if isOctalDigit c then return .code (← octalCode (c :: (← takeWhile 2 isOctalDigit)))
  return .code (← escapedCode c)

/-- An escape that starts with a digit: three octal digits are a code, and one or two digits the
number of a group, unless the first one is zero. -/
def digitEscape (flags : Flags) (c : Char) : Read Piece := do
  let literal (code : Nat) : Piece := .test (.literal flags.alphabet false code)
  if c = '0' then
    return literal (valueIn 8 (← takeWhile 2 isOctalDigit))
  let second ← takeWhile 1 Char.isDigit
  let third ←
    if (c :: second).all isOctalDigit && !second.isEmpty then takeWhile 1 isOctalDigit else pure []
  if third.isEmpty then
    let number := valueIn 10 (c :: second)
    checkRecall number
    return .groupText flags.alphabet number
  else return literal (← octalCode (c :: second ++ third))

/-- An escape outside of sets. -/
def escape (flags : Flags) (c : Char) : Read Piece := do
  if let some entry := category? c then return .test (.set flags.alphabet false [entry])
  if let some a := anchor? flags c then return .place a
  if c.isDigit then digitEscape flags c
  else return .test (.literal flags.alphabet false (← escapedCode c))

/-- An entry of a set, which a token starts. -/
def entry : Token → Read Entry
  | .plain c => return .code c.toNat
  | .escaped c => classEscape c

/-- The entries of a set up to its closing bracket, which may stand first as an entry. Each entry
takes a token, so the number of tokens suffices as `fuel`. -/
def entries : (fuel : Nat) → List Entry → Read (List Entry)
  | 0, _ => malformed
  | fuel + 1, done => do
    let t ← orMalformed (← next)
    if t = .plain ']' && !done.isEmpty then return done
    let first ← entry t
    if ← skip? '-' then
      let t ← orMalformed (← next)
      if t = .plain ']' then return done ++ [first, .code '-'.toNat]
      match first, ← entry t with
      | .code m, .code n => if n < m then malformed else entries fuel (done ++ [.range m n])
      | _, _ => malformed
    else entries fuel (done ++ [first])

/-- The test that a set makes. A set of one character is that character. -/
def classTest (alphabet : Alphabet) (negated : Bool) (entries : List Entry) : CharTest :=
  match entries.eraseDups with
  | [.code n] => .literal alphabet negated n
  | entries => .set alphabet negated entries

/-- A set behind its opening bracket. -/
def charClass (flags : Flags) : Read CharTest := do
  let negated ← skip? '^'
  let entries ← entries ((← get).tokens.length + 1) []
  return classTest flags.alphabet negated entries

end Read

end FormulaAudit.Expression
