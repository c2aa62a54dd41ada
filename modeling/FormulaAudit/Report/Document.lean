import FormulaAudit.Corpus
import FormulaAudit.Json.Printer
import FormulaAudit.Time.Calendar

/-!
The structured report: a JSON document with a summary, the formulas of each category and of each
sheet, and all formulas in the order of discovery.
-/

set_option autoImplicit false

namespace FormulaAudit

def Record.jsonMembers (r : Record) : List (String × Json) :=
  [("sheet", .str r.sheet), ("cell", .str r.cell), ("formula", .str r.formula),
    ("value", .str r.value)]

def Classified.toJson (r : Classified) : Json :=
  .obj (r.record.jsonMembers ++ [("category", .str r.category.name)])

/-- Some results as an array of objects. -/
def formulaArray (results : List Classified) : Json := .arr (results.map (·.toJson))

namespace Corpus

def summary (c : Corpus) : Json :=
  .obj
    [("total_formulas", .int c.total),
      ("worksheets", .int c.sheetCount),
      ("unique_functions", .arr (c.functionNames.map .str)),
      ("complexity_distribution",
        .obj (Category.all.map fun category ↦ (category.lowerName, .int (c.count category))))]

/-- The document about a corpus that was found under a name. -/
def document (c : Corpus) (name : String) (generated : Moment) : Json :=
  .obj
    [("file", .str name),
      ("generated_at", .str generated.toText),
      ("summary", c.summary),
      ("formulas_by_category",
        .obj (Category.all.map fun category ↦
          (category.name, formulaArray (c.byCategory category)))),
      ("formulas_by_sheet",
        .obj (c.bySheet.map fun (sheet, results) ↦ (sheet, formulaArray results))),
      ("all_formulas", formulaArray c.results)]

def documentReport (c : Corpus) (name : String) (generated : Moment) : String :=
  (c.document name generated).toText

end Corpus

end FormulaAudit
