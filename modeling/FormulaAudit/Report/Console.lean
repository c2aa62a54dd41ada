import FormulaAudit.MigrationPlan
import FormulaAudit.Report.Sample

/-!
The summary for the terminal: statistics, samples of each category and the migration plan in plain
text.
-/

set_option autoImplicit false

namespace FormulaAudit.Report

/-- A horizontal line. -/
def ruler (c : Char) (width : Nat) : String := String.ofList (List.replicate width c)

def sampleLine (index : Nat) (r : Classified) : String :=
  s!"  {index}. " ++ r.record.address ++ ": " ++ r.record.formula

/-- A sample of a category and the note of what it leaves out. -/
def categorySample (limit : Int) (c : Corpus) (category : Category) : List String :=
  let results := c.byCategory category
  let size := results.length
  ["", category.name ++ s!" FORMULAS ({size} total):"]
    ++ (numbered (excerpt limit results)).map (fun (index, r) ↦ sampleLine index r)
    ++ ((leftOut limit size).map fun n ↦ s!"  ... and {n} more").toList

def sheetLine (group : SheetGroup) : String :=
  Text.padRight 25 group.1 ++ " " ++ Text.padLeft 3 (toString group.2.length) ++ " formulas"

def phaseLines (phase : Phase) : List String :=
  ["",
    "PHASE " ++ toString phase.number ++ ": " ++ phase.name,
    "  Target: " ++ toString phase.target ++ " formulas (" ++ phase.description ++ ")",
    "  Effort: " ++ phase.effort.label ++ " person-days",
    "  Risk: " ++ phase.risk.label]

/-- The lines of the summary of a corpus that is not empty. -/
def summaryLines (limit : Int) (c : Corpus) : List String :=
  [ruler '=' 60,
    "EXCEL FORMULA ANALYSIS REPORT",
    ruler '=' 60,
    "",
    "SUMMARY STATISTICS",
    ruler '-' 30,
    "Total Formulas: " ++ toString c.total,
    "Worksheets with Formulas: " ++ toString c.sheetCount,
    "Unique Excel Functions: " ++ toString c.functionNames.length,
    "",
    "COMPLEXITY DISTRIBUTION",
    ruler '-' 30]
    ++ Category.all.map (distributionLine c)
    ++ ["", "EXCEL FUNCTIONS USED", ruler '-' 30, ", ".intercalate c.functionNames]
    ++ ["", "FORMULAS BY WORKSHEET", ruler '-' 30]
    ++ c.sheetsBySize.map sheetLine
    ++ ["", "SAMPLE FORMULAS BY CATEGORY", ruler '-' 40]
    ++ Category.all.flatMap (categorySample limit c)
    ++ ["", "MIGRATION RECOMMENDATIONS", ruler '-' 40]
    ++ c.migrationPlan.phases.flatMap phaseLines
    ++ ["", "Total Estimated Effort: " ++ MigrationPlan.totalEffort.label ++ " person-days"]

end FormulaAudit.Report

namespace FormulaAudit

/-- The summary with samples of the given size. -/
def Corpus.summaryReport (c : Corpus) (limit : Int) : String :=
  "\n".intercalate (Report.summaryLines limit c)

end FormulaAudit
