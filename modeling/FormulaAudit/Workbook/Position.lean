/-!
Positions of cells. A position is written as letters for the column and digits for the row; the
columns run from A to Z, then from AA on.
-/

set_option autoImplicit false

namespace FormulaAudit

/-- A row and a column, both counted from one. -/
structure Position where
  row : Nat
  column : Nat
deriving DecidableEq

namespace Position

/-- The number of the column `ZZZ`. -/
def lastColumn : Nat := 18278

/-- Row by row, and by column within a row. -/
def isBefore (p q : Position) : Bool := p.row < q.row || (p.row == q.row && p.column ≤ q.column)

def columnLetters : (column : Nat) → List Char
  | 0 => []
  | n + 1 => columnLetters (n / 26) ++ [Char.ofNat (65 + n % 26)]

def toText (p : Position) : String :=
  String.ofList (columnLetters p.column ++ Nat.toDigits 10 p.row)

def columnNumber (letters : List Char) : Nat :=
  letters.foldl (fun n c ↦ 26 * n + (c.toUpper.toNat - 64)) 0

/-- The position that a text writes. Letters may have either case. -/
def read? (text : String) : Option Position :=
  let letters := text.toList.takeWhile Char.isAlpha
  let digits := text.toList.drop letters.length
  if letters.isEmpty || digits.isEmpty || !digits.all Char.isDigit then none
  else some ⟨digits.foldl (fun n c ↦ 10 * n + (c.toNat - 48)) 0, columnNumber letters⟩

end Position

end FormulaAudit
