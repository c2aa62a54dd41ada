import FormulaAudit.Json.Basic
import FormulaAudit.Text.Quoted

/-!
Writing JSON over several lines: two blanks for each level, one item or member to a line, and
nothing between the brackets of an empty array or object. Only quotes, backslashes and control
characters are escaped.
-/

set_option autoImplicit false

namespace FormulaAudit.Json

/-- A character inside a string. -/
def escapeChar (c : Char) : List Char :=
  match c with
  | '"' => ['\\', '"']
  | '\\' => ['\\', '\\']
  | '\n' => ['\\', 'n']
  | '\r' => ['\\', 'r']
  | '\t' => ['\\', 't']
  | '\x08' => ['\\', 'b']
  | '\x0c' => ['\\', 'f']
  | _ => if c.toNat < 0x20 then '\\' :: 'u' :: Text.hexadecimal 4 c.toNat else [c]

def printString (s : String) : List Char := '"' :: s.toList.flatMap escapeChar ++ ['"']

def printInt (n : Int) : List Char :=
  (if n < 0 then ['-'] else []) ++ Nat.toDigits 10 n.natAbs

/-- A new line at a level. -/
def newLine (level : Nat) : List Char := '\n' :: List.replicate (2 * level) ' '

mutual

/-- A value whose first line is already at its place and whose brackets stand at a level. -/
def print (level : Nat) : Json → List Char
  | null => ['n', 'u', 'l', 'l']
  | bool true => ['t', 'r', 'u', 'e']
  | bool false => ['f', 'a', 'l', 's', 'e']
  | int n => printInt n
  | decimal negative d =>
    (if negative then ['-'] else []) ++ Nat.toDigits 10 d.digits ++ 'e' :: printInt d.exponent
  | str s => printString s
  | arr [] => ['[', ']']
  | arr (item :: items) =>
    '[' :: newLine (level + 1) ++ print (level + 1) item ++ printItems (level + 1) items
      ++ newLine level ++ [']']
  | obj [] => ['{', '}']
  | obj ((key, value) :: members) =>
    '{' :: newLine (level + 1) ++ printString key ++ ':' :: ' ' :: print (level + 1) value
      ++ printMembers (level + 1) members ++ newLine level ++ ['}']

/-- The items after the first one. -/
def printItems (level : Nat) : List Json → List Char
  | [] => []
  | item :: items => ',' :: newLine level ++ print level item ++ printItems level items

/-- The members after the first one. -/
def printMembers (level : Nat) : List (String × Json) → List Char
  | [] => []
  | (key, value) :: members =>
    ',' :: newLine level ++ printString key ++ ':' :: ' ' :: print level value
      ++ printMembers level members

end

def toText (j : Json) : String := String.ofList (j.print 0)

end FormulaAudit.Json
