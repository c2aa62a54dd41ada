/-!
Tables as comma-separated text. Fields are separated by commas and rows end with a line feed; a
field is quoted exactly if it holds a comma, a quote or a line feed, and a quote inside quotes is
written twice.
-/

set_option autoImplicit false

namespace FormulaAudit.Csv

def isSpecial (c : Char) : Bool := c == ',' || c == '"' || c == '\n'

def doubleQuotes (cs : List Char) : List Char :=
  cs.flatMap fun c ↦ if c = '"' then ['"', '"'] else [c]

def printField (cs : List Char) : List Char :=
  if cs.any isSpecial then '"' :: doubleQuotes cs ++ ['"'] else cs

/-- The fields of one row, without the end of the row. -/
def printFields : List String → List Char
  | [] => []
  | [field] => printField field.toList
  | field :: fields => printField field.toList ++ ',' :: printFields fields

def printRow (fields : List String) : List Char := printFields fields ++ ['\n']

def toText (rows : List (List String)) : String := String.ofList (rows.flatMap printRow)

end FormulaAudit.Csv
