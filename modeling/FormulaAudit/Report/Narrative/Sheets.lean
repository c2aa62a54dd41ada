import FormulaAudit.Report.Narrative.Overview
import FormulaAudit.Report.Preview

/-!
The section of the narrative report on the sheets: a table of all sheets, largest first, and the
three largest in detail with their first formulas.
-/

set_option autoImplicit false

namespace FormulaAudit.Report

def sheetRow (c : Corpus) (group : SheetGroup) : String :=
  let primary := c.primaryCategory group.1
  tableLine
    [group.1, toString group.2.length, shareText (percentOf group.2.length c.total),
      categoryMark primary ++ " " ++ primary.label]

/-- How many characters of a formula the detail of a sheet shows. -/
def sheetPreviewLimit : Int := 100

def sheetFormulaLine (r : Classified) : String :=
  "- `" ++ r.record.cell ++ "`: `" ++ preview sheetPreviewLimit r.record.formula ++ "`"

def sheetDetail (c : Corpus) (index : Nat) (group : SheetGroup) : List String :=
  let count (category : Category) := c.sheetCategoryCount group.1 category
  ["#### " ++ toString index ++ ". " ++ group.1 ++ " (" ++ toString group.2.length ++ " formulas)",
    "",
    "**Complexity Breakdown:**"]
    ++ Category.all.map (fun category ↦
      "- " ++ category.label ++ ": " ++ toString (count category) ++ " formulas")
    ++ ["", "**Sample Formulas:**"]
    ++ (group.2.take 3).map sheetFormulaLine
    ++ [""]

def sheetsLines (c : Corpus) : List String :=
  ["## Worksheet Analysis",
    "",
    "### Formula Distribution by Sheet",
    "",
    "| Worksheet | Formula Count | Percentage | Primary Complexity |",
    "|-----------|---------------|------------|-------------------|"]
    ++ c.sheetsBySize.map (sheetRow c)
    ++ ["", "### Top Formula-Heavy Worksheets", ""]
    ++ (numbered (c.sheetsBySize.take 3)).flatMap (fun (index, group) ↦ sheetDetail c index group)
    ++ ["---", ""]

end FormulaAudit.Report
