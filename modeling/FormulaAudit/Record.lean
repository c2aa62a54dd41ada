/-!
Formula records: the formula cells of a workbook as the analysis sees them.
-/

set_option autoImplicit false

namespace FormulaAudit

/-- A formula cell. -/
structure Record where
  sheet : String
  /-- The position in column-and-row notation. -/
  cell : String
  /-- The text without the equals sign in front. -/
  formula : String
  /-- The value shown when the workbook was last saved. -/
  value : String := ""
  row : Option Int := none
  column : Option Int := none
deriving DecidableEq

def Record.address (r : Record) : String := r.sheet ++ "!" ++ r.cell

end FormulaAudit
