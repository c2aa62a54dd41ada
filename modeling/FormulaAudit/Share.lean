import FormulaAudit.Corpus
import FormulaAudit.Number.Binary64

/-!
Shares of a corpus. Percentages and thresholds are worked out in binary floating point, one rounding
for each operation, so a printed share is exact to the last place it shows and a count that equals
a threshold does not exceed it.
-/

set_option autoImplicit false

namespace FormulaAudit

/-- The part of a total, in per cent. The total is not zero, and both are small enough to divide. -/
def percentOf (part total : Nat) : Binary64 :=
  .ofRatio false part total * .ofInt 100

/-- The count exceeds so many tenths of the total. -/
def exceedsTenths (count total tenths : Nat) : Bool :=
  (Binary64.ofInt total * .ofTenths tenths).isBelow count

namespace Corpus

/-- The share of a category in a corpus that is not empty. -/
def percentage (c : Corpus) (category : Category) : Binary64 :=
  percentOf (c.count category) c.total

/-- The overall rating by the share of complex formulas: above four tenths, or above two. -/
inductive Rating where
  | low
  | medium
  | high
deriving DecidableEq

def Rating.label : Rating → String
  | low => "Low"
  | medium => "Medium"
  | high => "High"

def rating (c : Corpus) : Rating :=
  if exceedsTenths (c.count .complex) c.total 4 then .high
  else if exceedsTenths (c.count .complex) c.total 2 then .medium
  else .low

/-- The category that dominates a sheet: complex or medium if it exceeds four tenths. -/
def primaryCategory (c : Corpus) (sheet : String) : Category :=
  let count := c.sheetCategoryCount sheet
  let total := count .simple + count .medium + count .complex
  if exceedsTenths (count .complex) total 4 then .complex
  else if exceedsTenths (count .medium) total 4 then .medium
  else .simple

end Corpus

end FormulaAudit
