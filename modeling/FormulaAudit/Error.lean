import FormulaAudit.Path

/-!
What can go wrong with an analysis, by cause, and the text for each cause.
-/

set_option autoImplicit false

namespace FormulaAudit

/-- What an empty corpus was wanted for. -/
inductive Purpose where
  | analysis
  | percentages
  | migrationPlan
  | consoleSummary
  | markdownReport
  | reportFiles
  | workbook (path : Path)
  | other (explanation : String)
deriving DecidableEq

def Purpose.refusal : Purpose → String
  | analysis => "No formulas found to analyze"
  | percentages => "Cannot compute percentages for an empty corpus"
  | migrationPlan => "Cannot plan a migration for an empty corpus"
  | consoleSummary => "Cannot summarize an empty corpus"
  | markdownReport => "Cannot build a report for an empty corpus"
  | reportFiles => "Refusing to write reports for an empty corpus"
  | workbook path => "No formulas found in " ++ path.toString
  | other explanation => explanation

inductive AuditError where
  | inputNotFound (path : Path)
  | inputUnreadable (path : Path) (reason : Option String)
  | emptyCorpus (purpose : Purpose)
deriving DecidableEq

namespace AuditError

def message : AuditError → String
  | inputNotFound path => "File not found: " ++ path.toString
  | inputUnreadable path reason =>
    let text := "Unable to read workbook: " ++ path.toString
    match reason with
    | none | some "" => text
    | some reason => text ++ " (" ++ reason ++ ")"
  | emptyCorpus purpose => purpose.refusal

/-- The path that the error is about. -/
def path? : AuditError → Option Path
  | inputNotFound path => some path
  | inputUnreadable path _ => some path
  | emptyCorpus _ => none

def reason? : AuditError → Option String
  | inputUnreadable _ reason => reason
  | _ => none

end AuditError

end FormulaAudit
