import FormulaAudit.Workbook.Position
import FormulaAudit.Workbook.Title
import FormulaAudit.Workbook.Value

/-!
Workbooks: sheets in their order, each with cells listed in any order. Where a sheet lists two
cells at one position, the later one counts.
-/

set_option autoImplicit false

namespace FormulaAudit

/-- The formula of a cell. Its text stands without the equals sign. -/
inductive CellFormula where
  | plain (text : String)
  | array (text : String)
  | dataTable
deriving DecidableEq

def CellFormula.value : CellFormula → CellValue
  | plain text => .text ("=" ++ text)
  | array text => .arrayFormula ("=" ++ text)
  | dataTable => .dataTable

structure Cell where
  position : Position
  formula : Option CellFormula := none
  type : ValueType := .number
  /-- The text of the value of the cell; for a formula, of its last result. -/
  stored : String := ""
deriving DecidableEq

namespace Cell

/-- The stored value, or why its text does not stand for one. -/
def value (cell : Cell) : Except CellValue.Fault CellValue := CellValue.read cell.type cell.stored

/-- The stored value; none if its text does not stand for one. -/
def valueOrNone (cell : Cell) : CellValue := cell.value.toOption.getD .none

/-- What reading a cell stumbles over: a column beyond the last one, or else its stored text if that
is looked at. -/
def fault? (cell : Cell) (looksAtValue : Bool) : Option CellValue.Fault :=
  if Position.lastColumn < cell.position.column then some .malformed
  else if !looksAtValue then none
  else match cell.value with
    | .ok _ => none
    | .error f => some f

/-- What the cell holds: its formula if it has one, or else its value. -/
def content (cell : Cell) : CellValue :=
  match cell.formula with
  | some formula => formula.value
  | none => cell.valueOrNone

def formulaText? (cell : Cell) : Option String := cell.content.cellFormula? cell.formula.isSome

end Cell

structure Sheet where
  name : String
  cells : List Cell := []
deriving DecidableEq

namespace Sheet

/-- Row by row, each row by column. -/
def sorted (cells : List Cell) : List Cell :=
  cells.mergeSort fun a b ↦ a.position.isBefore b.position

/-- The cells that no later cell replaces. -/
def latest : List Cell → List Cell
  | [] => []
  | cell :: cells =>
    if cells.any (·.position = cell.position) then latest cells else cell :: latest cells

/-- The cells row by row, each row by column. -/
def inOrder (s : Sheet) : List Cell := sorted (latest s.cells)

/-- The value stored at a position; none where there is no cell. -/
def valueAt (s : Sheet) (position : Position) : CellValue :=
  ((s.cells.findRev? (·.position = position)).map (·.valueOrNone)).getD .none

/-- The faults of its cells, row by row, as far as the stored texts are looked at. -/
def faults (s : Sheet) (looksAtValue : Cell → Bool) : List CellValue.Fault :=
  (sorted s.cells).filterMap fun cell ↦ cell.fault? (looksAtValue cell)

end Sheet

structure Workbook where
  sheets : List Sheet
deriving DecidableEq

namespace Workbook

def sheetNames (w : Workbook) : List String := w.sheets.map (·.name)

/-- The sheets under their titles. -/
def titledSheets (w : Workbook) : List (String × Sheet) := (titlesOf w.sheetNames).zip w.sheets

/-- What spoils the workbook, in the order in which reading meets it: first the names of the sheets
and the values of cells without a formula, then all stored values. -/
def faults (w : Workbook) : List CellValue.Fault :=
  let first (s : Sheet) :=
    (if isTitle s.name then [] else [.malformed]) ++ s.faults (·.formula.isNone)
  w.sheets.flatMap first ++ w.sheets.flatMap (·.faults fun _ ↦ true)

end Workbook

end FormulaAudit
