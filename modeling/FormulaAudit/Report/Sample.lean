import FormulaAudit.Corpus
import FormulaAudit.Excerpt
import FormulaAudit.Number.FixedPlaces
import FormulaAudit.Share
import FormulaAudit.Text.Pad

/-!
Parts that several reports share: samples of a list with a note of what they leave out, and the
line that states the size and the share of a category.
-/

set_option autoImplicit false

namespace FormulaAudit.Report

variable {α : Type}

/-- The items with their places in the list, counted from one. -/
def numbered (items : List α) : List (Nat × α) :=
  items.zipIdx.map fun (item, index) ↦ (index + 1, item)

/-- How many items a note says that a sample leaves out; no note stands under a whole list. -/
def leftOut (limit : Int) (total : Nat) : Option Int :=
  if limit < total then some (total - limit) else none

/-- A share in per cent with one decimal place. -/
def shareText (share : Binary64) : String := share.fixedPlaces 1 ++ "%"

/-- The size and the share of a category. -/
def distributionLine (c : Corpus) (category : Category) : String :=
  Text.padRight 8 (category.label ++ ":") ++ " " ++ Text.padLeft 3 (toString (c.count category))
    ++ " (" ++ shareText (c.percentage category) ++ ")"

end FormulaAudit.Report
