import FormulaAudit.Proofs.Corpus.Records
import FormulaAudit.Proofs.Corpus.SheetFigures
import FormulaAudit.Proofs.Number.Tenths

/-!
The overall rating and the dominant category of a sheet. Both compare a count with a share of a
total in binary floating point, where neither four nor two tenths can be held exactly. Up to
`2 ^ 40` formulas the comparisons come out as those of whole numbers do (`aggregate_ratedByShares`):
at the boundary, where a count is just the share, it does not exceed it.
-/

set_option autoImplicit false

namespace FormulaAudit

namespace Corpus

variable {c : Corpus} {k : Classifier} {records : List Record}

/-- The rating and the dominant category of each sheet are those of the exact shares, and a share
that is just reached is not exceeded. -/
structure RatedByShares (c : Corpus) (k : Classifier) (records : List Record) : Prop where
  rating : c.rating =
    if 2 * records.length < 5 * k.countIn .complex records then .high
    else if records.length < 5 * k.countIn .complex records then .medium
    else .low
  primaryCategory (sheet : String) :
    let own := records.filter (·.sheet = sheet)
    c.primaryCategory sheet =
      if 2 * own.length < 5 * k.countIn .complex own then .complex
      else if 2 * own.length < 5 * k.countIn .medium own then .medium
      else .simple
  rating_at_two_fifths : 5 * k.countIn .complex records = 2 * records.length → c.rating ≠ .high
  rating_at_one_fifth : 5 * k.countIn .complex records = records.length → c.rating = .low
  primaryCategory_at_two_fifths (sheet : String) {category : Category} :
    let own := records.filter (·.sheet = sheet)
    5 * k.countIn category own = 2 * own.length → category ≠ .simple →
      c.primaryCategory sheet ≠ category

/-! ### Counts by record -/

theorem Summarizes.sheetCategoryCount_eq_countIn (hc : c.Summarizes k records) (name : String)
    (category : Category) :
    c.sheetCategoryCount name category =
      k.countIn category (records.filter (·.sheet = name)) := by
  rw [sheetCategoryCount, hc.sheet_eq_map, List.countP_map, Classifier.countIn]
  simp only [Function.comp_def, k.category_classify]

/-! ### Ratings -/

theorem rating_eq_of_total (c : Corpus) (hsize : c.total ≤ 2 ^ 40) : c.rating =
    if 2 * c.total < 5 * c.count .complex then .high
    else if c.total < 5 * c.count .complex then .medium
    else .low := by
  simp only [rating, exceedsTenths_four hsize, exceedsTenths_two hsize]

theorem primaryCategory_eq_of_sheet (c : Corpus) (name : String)
    (hsize : (c.sheet name).length ≤ 2 ^ 40) : c.primaryCategory name =
      if 2 * (c.sheet name).length < 5 * c.sheetCategoryCount name .complex then .complex
      else if 2 * (c.sheet name).length < 5 * c.sheetCategoryCount name .medium then .medium
      else .simple := by
  simp only [primaryCategory, sum_sheetCategoryCount, exceedsTenths_four hsize]

theorem Summarizes.rating_eq_of_length (hc : c.Summarizes k records)
    (hsize : records.length ≤ 2 ^ 40) : c.rating =
      if 2 * records.length < 5 * k.countIn .complex records then .high
      else if records.length < 5 * k.countIn .complex records then .medium
      else .low := by
  have htotal := hc.total_eq_length
  rw [rating_eq_of_total c (htotal ▸ hsize), htotal, hc.count_eq_countIn]

theorem Summarizes.primaryCategory_eq_of_length (hc : c.Summarizes k records)
    (hsize : records.length ≤ 2 ^ 40) (sheet : String) :
    let own := records.filter (·.sheet = sheet)
    c.primaryCategory sheet =
      if 2 * own.length < 5 * k.countIn .complex own then .complex
      else if 2 * own.length < 5 * k.countIn .medium own then .medium
      else .simple := by
  intro own
  have hlength : (c.sheet sheet).length = own.length := by
    rw [hc.sheet_eq_map, List.length_map]
  have hown : (c.sheet sheet).length ≤ 2 ^ 40 := by
    rw [hlength]
    exact (List.length_filter_le _ records).trans hsize
  rw [primaryCategory_eq_of_sheet c sheet hown, hlength, hc.sheetCategoryCount_eq_countIn,
    hc.sheetCategoryCount_eq_countIn]

theorem Summarizes.ratedByShares (hc : c.Summarizes k records) (hsize : records.length ≤ 2 ^ 40) :
    c.RatedByShares k records := by
  have hrating := hc.rating_eq_of_length hsize
  have hprimary := hc.primaryCategory_eq_of_length hsize
  exact {
    rating := hrating
    primaryCategory := hprimary
    rating_at_two_fifths := fun heq ↦ by
      rw [hrating, if_neg (by omega)]
      split <;> decide
    rating_at_one_fifth := fun heq ↦ by
      rw [hrating, if_neg (by omega), if_neg (by omega)]
    primaryCategory_at_two_fifths := fun sheet category ↦ by
      intro own heq hkind
      rw [hprimary]
      cases category with
      | simple => exact absurd rfl hkind
      | medium =>
        rw [if_neg (by omega : ¬ 2 * own.length < 5 * k.countIn .medium own)]
        split <;> decide
      | complex =>
        rw [if_neg (by omega : ¬ 2 * own.length < 5 * k.countIn .complex own)]
        split <;> decide }

end Corpus

namespace Tally

/-- Up to `2 ^ 40` formulas, the rating of an aggregate and the dominant category of each of its
sheets, known or not, follow the exact shares. -/
theorem aggregate_ratedByShares (k : Classifier) (records : List Record)
    (hsize : records.length ≤ 2 ^ 40) : (aggregate k records).RatedByShares k records :=
  (summarizes_aggregate k records).ratedByShares hsize

/-- Two complex formulas out of five. -/
def twoFifthsComplex : List Record :=
  ["B1", "B2", "B3", "SUMPRODUCT(B1)", "SUMPRODUCT(B2)"].map fun formula ↦
    { sheet := "Data", cell := "A1", formula }

/-- A share of just four tenths is medium, and it does not dominate the sheet. -/
theorem aggregate_ratedByShares_two_fifths :
    twoFifthsComplex.length ≤ 2 ^ 40 ∧
      (aggregate .standard twoFifthsComplex).rating = .medium ∧
      (aggregate .standard twoFifthsComplex).primaryCategory "Data" = .simple ∧
      (aggregate .standard twoFifthsComplex).primaryCategory "Notes" = .simple := by
  have hsize : twoFifthsComplex.length ≤ 2 ^ 40 := by decide
  have hrated := aggregate_ratedByShares .standard twoFifthsComplex hsize
  refine ⟨hsize, ?_, ?_, ?_⟩
  · rw [hrated.rating]
    decide +kernel
  · rw [hrated.primaryCategory]
    decide +kernel
  · rw [hrated.primaryCategory]
    decide +kernel

end Tally

end FormulaAudit
