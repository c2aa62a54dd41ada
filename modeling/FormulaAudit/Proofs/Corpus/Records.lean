import FormulaAudit.Proofs.Classification.Evidence
import FormulaAudit.Proofs.Corpus.Summary

/-!
The views of a corpus by its records. A view holds the results of those records that belong to it, so
it can be said without the results what stands in it and how much (`Summarizes.byCategory_eq_map`,
`Summarizes.group_eq_map`).
-/

set_option autoImplicit false

namespace FormulaAudit

/-- How many of the records have formulas of a category. -/
def Classifier.countIn (k : Classifier) (category : Category) (records : List Record) : ℕ :=
  records.countP fun record ↦ k.category record.formula = category

namespace Corpus

variable {c : Corpus} {k : Classifier} {records : List Record}

theorem Summarizes.total_eq_length (hc : c.Summarizes k records) : c.total = records.length := by
  rw [total, hc.results, List.length_map]

theorem Summarizes.byCategory_eq_map (hc : c.Summarizes k records) (category : Category) :
    c.byCategory category =
      (records.filter (k.category ·.formula = category)).map k.classify := by
  rw [hc.byCategory, hc.results, List.filter_map]
  simp only [Function.comp_def, k.category_classify]

theorem Summarizes.count_eq_countIn (hc : c.Summarizes k records) (category : Category) :
    c.count category = k.countIn category records := by
  rw [count, hc.byCategory_eq_map, List.length_map, ← List.countP_eq_length_filter,
    Classifier.countIn]

theorem Summarizes.sheet_eq_map (hc : c.Summarizes k records) (name : String) :
    c.sheet name = (records.filter (·.sheet = name)).map k.classify := by
  rw [hc.sheet, hc.results, List.filter_map]
  simp only [Function.comp_def, k.record_classify]

theorem Summarizes.nodup_sheets (hc : c.Summarizes k records) : (c.bySheet.map Prod.fst).Nodup :=
  Groups.nodup_of_pairwise_idxOf hc.sheets_ordered

/-- The group of a sheet is what is found under its name. -/
theorem Summarizes.group_eq (hc : c.Summarizes k records) {group : SheetGroup}
    (hgroup : group ∈ c.bySheet) : group.2 = c.sheet group.1 :=
  (Groups.under_of_mem hc.nodup_sheets hgroup).symm

theorem Summarizes.group_eq_map (hc : c.Summarizes k records) {group : SheetGroup}
    (hgroup : group ∈ c.bySheet) :
    group.2 = (records.filter (·.sheet = group.1)).map k.classify := by
  rw [hc.group_eq hgroup, hc.sheet_eq_map]

end Corpus

end FormulaAudit
