import FormulaAudit.Record
import FormulaAudit.Workbook.Basic

/-!
The formula records of a workbook. Formula texts and stored values come from two views of the
workbook that are joined by the title of the sheet and the position of the cell; records follow the
order of sheets, rows and columns.
-/

set_option autoImplicit false

namespace FormulaAudit

namespace Workbook

/-- The value stored at a position of the sheet of a given title. -/
def valueAt (titled : List (String × Sheet)) (title : String) (position : Position) : CellValue :=
  match titled.lookup title with
  | some sheet => sheet.valueAt position
  | none => .none

/-- The record of a formula cell of the sheet of a given title. -/
def record (titled : List (String × Sheet)) (title : String) (cell : Cell) (formula : String) :
    Record where
  sheet := title
  cell := cell.position.toText
  formula
  value := (valueAt titled title cell.position).display
  row := some cell.position.row
  column := some cell.position.column

/-- The records of one sheet among the titled sheets of a workbook. -/
def sheetRecords (titled : List (String × Sheet)) (title : String) (sheet : Sheet) : List Record :=
  sheet.inOrder.filterMap fun cell ↦ cell.formulaText?.map (record titled title cell)

def records (w : Workbook) : List Record :=
  let titled := w.titledSheets
  titled.flatMap fun (title, sheet) ↦ sheetRecords titled title sheet

end Workbook

end FormulaAudit
