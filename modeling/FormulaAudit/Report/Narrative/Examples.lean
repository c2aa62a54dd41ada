import FormulaAudit.Report.Narrative.Overview
import FormulaAudit.Report.Preview
import FormulaAudit.Settings

/-!
The section of the narrative report on the categories: what marks a category, what it costs to move
its formulas, and a table of examples that ends with a note if it leaves out any.
-/

set_option autoImplicit false

namespace FormulaAudit.Report

def characteristics : Category → List String
  | .simple =>
    ["Direct cell references (e.g., `=A1`, `=Basic_Data!F27`)",
      "Basic arithmetic operations (e.g., `=A1+B1`, `=D2/$H$16`)",
      "Simple conditional logic (e.g., `=IF(ISBLANK(A1),\"\",A1)`)",
      "Basic text concatenation"]
  | .medium =>
    ["VLOOKUP operations with error handling",
      "Multiple nested IF conditions",
      "Text processing functions",
      "Conditional aggregations (SUMIF, COUNTIF)"]
  | .complex =>
    ["Multiple nested functions (3+ levels)",
      "Array formulas and advanced lookups",
      "Complex text processing and parsing",
      "Multi-criteria conditional logic"]

def categoryEffort : Category → String
  | .simple => "Low risk, 1-2 person-days per 10 formulas"
  | .medium => "Medium risk, 0.5-1 person-day per formula"
  | .complex => "High risk, 1-2 person-days per formula"

def exampleLine (previewLimit : Int) (r : Classified) : String :=
  tableLine
    [r.record.sheet, r.record.cell, "`" ++ preview previewLimit r.record.formula ++ "`"]

def exampleNote (n : Int) : String := tableLine ["...", "...", s!"*{n} more formulas*"]

/-- The rows of the table of examples and the note under them. -/
def exampleLines (settings : Settings) (results : List Classified) : List String :=
  (excerpt settings.sampleLimit results).map (exampleLine settings.previewLimit)
    ++ ((leftOut settings.sampleLimit results.length).map exampleNote).toList

def categoryLines (settings : Settings) (c : Corpus) (category : Category) : List String :=
  let results := c.byCategory category
  let share := shareText (c.percentage category)
  ["#### " ++ categoryMark category ++ " " ++ category.label ++ " Formulas ("
      ++ toString results.length ++ " formulas - " ++ share ++ ")",
    "",
    "**Characteristics:**"]
    ++ (characteristics category).map ("- " ++ ·)
    ++ ["",
      "**Migration Effort**: " ++ categoryEffort category,
      "",
      "**Examples:**",
      "",
      "| Sheet | Cell | Formula |",
      "|-------|------|---------|"]
    ++ exampleLines settings results
    ++ [""]

def categoriesLines (settings : Settings) (c : Corpus) : List String :=
  ["## Detailed Analysis", "", "### Formula Distribution by Complexity", ""]
    ++ Category.all.flatMap (categoryLines settings c)
    ++ ["---", ""]

end FormulaAudit.Report
