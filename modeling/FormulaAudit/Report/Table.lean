import FormulaAudit.Corpus
import FormulaAudit.Csv

/-!
The table report: one row for each formula, in the order of discovery, under a row of headings.
-/

set_option autoImplicit false

namespace FormulaAudit

def tableHeadings : List String :=
  ["Sheet", "Cell", "Formula", "Category", "Length", "FunctionCount"]

def Classified.tableRow (r : Classified) : List String :=
  [r.record.sheet, r.record.cell, r.record.formula, r.category.name, toString r.features.length,
    toString r.features.functionCount]

def Corpus.table (c : Corpus) : List (List String) :=
  tableHeadings :: c.results.map (·.tableRow)

def Corpus.tableReport (c : Corpus) : String := Csv.toText c.table

end FormulaAudit
