import FormulaAudit.Error
import FormulaAudit.Report.Console
import FormulaAudit.Report.Narrative

/-!
Requests that an empty corpus refuses: shares, a migration plan, the summary and the narrative
report have nothing to be about.
-/

set_option autoImplicit false

namespace FormulaAudit.Corpus

variable {α : Type}

/-- The answer, unless the corpus is empty. -/
def unlessEmpty (c : Corpus) (purpose : Purpose) (answer : α) : Except AuditError α :=
  if c.isEmpty then .error (.emptyCorpus purpose) else .ok answer

def requestPercentage (c : Corpus) (category : Category) : Except AuditError Binary64 :=
  c.unlessEmpty .percentages (c.percentage category)

def requestPlan (c : Corpus) : Except AuditError MigrationPlan :=
  c.unlessEmpty .migrationPlan c.migrationPlan

def requestSummary (c : Corpus) (limit : Int) : Except AuditError String :=
  c.unlessEmpty .consoleSummary (c.summaryReport limit)

def requestNarrative (c : Corpus) (settings : Settings) (name : String) (generated : Moment) :
    Except AuditError String :=
  c.unlessEmpty .markdownReport (c.narrativeReport settings name generated)

end FormulaAudit.Corpus
