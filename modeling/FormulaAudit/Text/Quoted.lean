import FormulaAudit.Text.Printable

/-!
Quoted text for messages. Single quotes enclose the text, double quotes if it holds a single quote
and no double one; a backslash, the enclosing quote and whatever is not printable are escaped.
-/

set_option autoImplicit false

namespace FormulaAudit.Text

/-- The number in hexadecimal, with zeros in front up to a width. -/
def hexadecimal (width number : Nat) : List Char :=
  let digits := Nat.toDigits 16 number
  List.replicate (width - digits.length) '0' ++ digits

/-- The escape of a character that is not printable. -/
def codeEscape (c : Char) : List Char :=
  if c.toNat < 0x100 then '\\' :: 'x' :: hexadecimal 2 c.toNat
  else if c.toNat < 0x10000 then '\\' :: 'u' :: hexadecimal 4 c.toNat
  else '\\' :: 'U' :: hexadecimal 8 c.toNat

def quotedChar (mark c : Char) : List Char :=
  if c = mark ∨ c = '\\' then ['\\', c]
  else match c with
    | '\n' => ['\\', 'n']
    | '\r' => ['\\', 'r']
    | '\t' => ['\\', 't']
    | _ => if isPrintable c then [c] else codeEscape c

def quoted (text : String) : String :=
  let cs := text.toList
  let mark := if cs.contains '\x27' && !cs.contains '"' then '"' else '\x27'
  String.ofList (mark :: cs.flatMap (quotedChar mark) ++ [mark])

end FormulaAudit.Text
