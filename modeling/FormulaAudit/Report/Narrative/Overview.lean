import FormulaAudit.MigrationPlan
import FormulaAudit.Report.Sample
import FormulaAudit.Time.Calendar

/-!
The opening of the narrative report: its heading and the table of key figures. Also the coloured
marks and the table rows that all sections use.
-/

set_option autoImplicit false

namespace FormulaAudit.Report

def categoryMark : Category → String
  | .simple => "🟢"
  | .medium => "🟡"
  | .complex => "🔴"

def riskMark : Risk → String
  | .low => "🟢"
  | .medium => "🟡"
  | .high => "🔴"

/-- A row of a table. -/
def tableLine (cells : List String) : String := "| " ++ " | ".intercalate cells ++ " |"

def headingLines (name : String) (generated : Moment) : List String :=
  ["# Excel Formula Analysis Report",
    "",
    "**File**: " ++ name ++ "  ",
    "**Analysis Date**: " ++ generated.toHeading ++ "  ",
    "**Generated by**: SheetScope",
    "",
    "---",
    ""]

def overviewLines (c : Corpus) : List String :=
  ["## Executive Summary",
    "",
    "| Metric | Value |",
    "|--------|-------|",
    tableLine ["**Total Formulas**", toString c.total],
    tableLine ["**Worksheets Analyzed**", toString c.sheetCount],
    tableLine ["**Unique Excel Functions**", toString c.functionNames.length],
    tableLine ["**Complexity Score**", c.rating.label],
    "",
    "### Complexity Distribution",
    "",
    "```",
    "Formula Complexity Breakdown:"]
    ++ Category.all.map (fun category ↦ "   " ++ distributionLine c category)
    ++ ["```", "", "---", ""]

end FormulaAudit.Report
