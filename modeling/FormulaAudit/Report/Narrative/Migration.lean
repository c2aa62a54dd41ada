import FormulaAudit.Report.Narrative.Overview

/-!
The section of the narrative report on the migration plan: the three phases, the estimate for the
whole, and the risks by category.
-/

set_option autoImplicit false

namespace FormulaAudit.Report

def riskText (risk : Risk) : String := riskMark risk ++ " " ++ risk.label

def phaseHeading (mark : String) (phase : Phase) : List String :=
  ["#### " ++ mark ++ " Phase " ++ toString phase.number ++ ": " ++ phase.name ++ " ("
      ++ phase.timeline ++ ")",
    "**Target**: " ++ toString phase.target ++ " formulas"]

def phaseCosts (phase : Phase) : List String :=
  ["- **Effort**: " ++ phase.effort.label ++ " person-days",
    "- **Risk**: " ++ riskText phase.risk,
    ""]

def phasesLines (c : Corpus) : List String :=
  let plan := c.migrationPlan
  phaseHeading "🚀" plan.foundation
    ++ ["- **Simple formulas**: All " ++ toString (c.count .simple) ++ " formulas",
      "- **Essential medium**: " ++ toString plan.essentialMedium
        ++ " selected medium complexity formulas",
      "- **Coverage**: ~" ++ plan.foundation.coverageText c.total ++ "% of functionality"]
    ++ phaseCosts plan.foundation
    ++ phaseHeading "🔧" plan.enhancement
    ++ ["- **Remaining medium**: " ++ toString plan.remainingMedium ++ " formulas",
      "- **Selected complex**: " ++ toString plan.selectedComplex ++ " formulas",
      "- **Coverage**: ~" ++ plan.enhancement.coverageText c.total
        ++ "% additional functionality"]
    ++ phaseCosts plan.enhancement
    ++ phaseHeading "🎯" plan.completion
    ++ ["- **Remaining complex**: All remaining complex formulas",
      "- **Coverage**: 100% feature parity"]
    ++ phaseCosts plan.completion

def phaseRow (phase : Phase) : String :=
  tableLine
    ["Phase " ++ toString phase.number ++ " (" ++ phase.name ++ ")", toString phase.target,
      phase.effort.label, phase.timeline, riskText phase.risk]

def totalRow (c : Corpus) : String :=
  tableLine
    ["**TOTAL**", "**" ++ toString c.total ++ "**", "**" ++ MigrationPlan.totalEffort.label ++ "**",
      "**10 months**", "**Mixed**"]

def riskHeading (c : Corpus) (risk : Risk) (category : Category) : String :=
  "#### " ++ riskText risk ++ " Risk Items (" ++ toString (c.count category) ++ " formulas)"

def risksLines (c : Corpus) : List String :=
  ["### Risk Assessment",
    "",
    riskHeading c .low .simple,
    "- **Direct migration**: Can be translated 1:1",
    "- **Minimal testing required**: Standard unit tests sufficient",
    "",
    riskHeading c .medium .medium,
    "- **Logic mapping required**: May need algorithm adjustments",
    "- **Integration testing**: Cross-functional dependencies",
    "",
    riskHeading c .high .complex,
    "- **Potential redesign**: May require new algorithms",
    "- **Extensive testing**: Complex validation scenarios",
    ""]

def migrationLines (c : Corpus) : List String :=
  ["## Migration Strategy & Recommendations",
    "",
    "### Phased Implementation Approach",
    ""]
    ++ phasesLines c
    ++ ["### Total Project Estimation",
      "",
      "| Phase | Formulas | Effort (Days) | Timeline | Risk Level |",
      "|-------|----------|---------------|----------|------------|"]
    ++ c.migrationPlan.phases.map phaseRow
    ++ [totalRow c, ""]
    ++ risksLines c
    ++ ["---", ""]

end FormulaAudit.Report
