import FormulaAudit.FunctionCatalogue
import FormulaAudit.Report.Narrative.Overview

/-!
The section of the narrative report on the functions that formulas call: how many formulas call
each, and the groups of the catalogue.
-/

set_option autoImplicit false

namespace FormulaAudit.Report

def functionRow (use : FunctionUse) : String :=
  tableLine [use.name, toString use.formulas, use.impact.label]

def groupLines (group : FunctionCatalogue.Group) : List String :=
  let names := ", ".intercalate group.members
  ["**" ++ group.title ++ ":**", if names = "" then "None found" else names, ""]

def functionsLines (c : Corpus) : List String :=
  ["## Excel Functions Usage",
    "",
    "### Function Frequency Analysis",
    "",
    "| Function | Usage Count | Complexity Impact |",
    "|----------|-------------|------------------|"]
    ++ c.functionUsage.map functionRow
    ++ ["", "### Function Categories", ""]
    ++ (FunctionCatalogue.categorize c.functionNames).flatMap groupLines
    ++ ["---", ""]

end FormulaAudit.Report
