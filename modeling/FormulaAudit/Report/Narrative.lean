import FormulaAudit.Report.Narrative.Examples
import FormulaAudit.Report.Narrative.Functions
import FormulaAudit.Report.Narrative.Inventory
import FormulaAudit.Report.Narrative.Migration
import FormulaAudit.Report.Narrative.Overview
import FormulaAudit.Report.Narrative.Sheets

/-!
The narrative report, a Markdown text: its sections one after another, each a list of lines.
-/

set_option autoImplicit false

namespace FormulaAudit

/-- The lines of the narrative report on a corpus that is not empty. -/
def Report.narrativeLines (settings : Settings) (c : Corpus) (name : String) (generated : Moment) :
    List String :=
  headingLines name generated ++ overviewLines c ++ categoriesLines settings c ++ sheetsLines c
    ++ functionsLines c ++ migrationLines c ++ appendixLines settings c generated

def Corpus.narrativeReport (c : Corpus) (settings : Settings) (name : String)
    (generated : Moment) : String :=
  "\n".intercalate (Report.narrativeLines settings c name generated) ++ "\n"

end FormulaAudit
