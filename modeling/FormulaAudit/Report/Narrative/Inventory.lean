import FormulaAudit.Report.Preview
import FormulaAudit.Report.Sample
import FormulaAudit.Settings
import FormulaAudit.Time.Calendar

/-!
The inventory at the end of the narrative report: the formulas of each category, numbered and at
full length. Simple formulas are all listed, the others up to a limit.
-/

set_option autoImplicit false

namespace FormulaAudit.Report

/-- The limit for a category, if it has one. -/
def inventoryLimit? (settings : Settings) : Category → Option Int
  | .simple => none
  | .medium => some settings.mediumInventoryLimit
  | .complex => some settings.complexInventoryLimit

/-- The results of a category that the inventory lists. -/
def listed (settings : Settings) (c : Corpus) (category : Category) : List Classified :=
  match inventoryLimit? settings category with
  | none => c.byCategory category
  | some limit => excerpt limit (c.byCategory category)

def inventoryLine (index : Nat) (r : Classified) : String :=
  Text.padLeft 3 (toString index) ++ ". " ++ r.record.address ++ ": `"
    ++ escapeFormula r.record.formula ++ "`"

/-- The note of what the inventory leaves out of a category, if it leaves out any. -/
def inventoryNote (category : Category) (shown total : Nat) : List String :=
  if shown < total then
    ["", "*... and " ++ toString (total - shown) ++ " more " ++ category.lowerName ++ " formulas*"]
  else []

def inventoryLines (settings : Settings) (c : Corpus) (category : Category) : List String :=
  let total := (c.byCategory category).length
  let shown := listed settings c category
  ["#### " ++ category.label ++ " Formulas (" ++ toString total ++ " total)"]
    ++ (numbered shown).map (fun (index, r) ↦ inventoryLine index r)
    ++ inventoryNote category shown.length total
    ++ [""]

def appendixLines (settings : Settings) (c : Corpus) (generated : Moment) : List String :=
  ["## Appendix", "", "### Complete Formula Inventory", ""]
    ++ Category.all.flatMap (inventoryLines settings c)
    ++ ["---", "", "*Report generated on " ++ generated.toText ++ "*"]

end FormulaAudit.Report
