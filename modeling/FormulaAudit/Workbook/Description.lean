import FormulaAudit.Json.Basic
import FormulaAudit.Text.LineEnd
import FormulaAudit.Workbook.Basic

/-!
Workbooks described as JSON: the sheets with their names, and for each cell its reference, its
formula with the formula's kind, and the type and text of its stored value. Texts of cells are kept
with line feeds as their only line ends, and cells in a row zero are left out.
-/

set_option autoImplicit false

namespace FormulaAudit

/-- The type that a letter or word stands for; types that are not known hold text. -/
def ValueType.ofName : String → ValueType
  | "n" => .number
  | "b" => .truth
  | "d" => .date
  | _ => .text

namespace Cell

/-- The text that a cell keeps in a member of its description. -/
def keptText? (key : String) (j : Json) : Option String :=
  (j.textField? key).map fun text ↦ String.ofList (Text.withLineFeeds text.toList)

def formulaOfJson? (j : Json) : Option CellFormula :=
  (keptText? "f" j).map fun formula ↦
    match j.textField? "ft" with
    | some "array" => .array formula
    | some "dataTable" => .dataTable
    | _ => .plain formula

def ofJson? (j : Json) : Option Cell := do
  let position ← Position.read? (← j.textField? "ref")
  return {
    position
    formula := formulaOfJson? j
    type := .ofName ((j.textField? "t").getD "n")
    stored := (keptText? "v" j).getD "" }

end Cell

def Sheet.ofJson? (j : Json) : Option Sheet := do
  let name ← j.textField? "name"
  let cells ← (← j.listField? "cells").mapM Cell.ofJson?
  return { name, cells := cells.filter (0 < ·.position.row) }

def Workbook.ofJson? (j : Json) : Option Workbook := do
  let sheets ← (← j.listField? "sheets").mapM Sheet.ofJson?
  return { sheets }

end FormulaAudit
