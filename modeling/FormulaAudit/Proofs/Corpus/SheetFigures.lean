import FormulaAudit.Proofs.Classification.Evidence
import FormulaAudit.Proofs.Tally.Session
import Mathlib.Algebra.BigOperators.Group.List.Basic

/-!
The figures on sheets. The groups of the sheets put one behind the other are the results in another
order (`flatMap_bySheet_perm`), so whatever is counted sheet by sheet adds up to the count over the
corpus. Ranking the sheets by size keeps the order of those of one size, because it leaves the list
of them as it was (`filter_mergeSort_size`). `SheetFigures` says what the figures owe the records,
and every aggregate keeps it (`aggregate_sheetFigures`).
-/

set_option autoImplicit false

namespace FormulaAudit

section Ranking

variable {α : Type} {size : α → ℕ}

theorem largerFirst_trans (a b c : α) : decide (size b ≤ size a) = true →
    decide (size c ≤ size b) = true → decide (size c ≤ size a) = true := by
  simp only [decide_eq_true_eq]
  omega

theorem largerFirst_total (a b : α) :
    (decide (size b ≤ size a) || decide (size a ≤ size b)) = true := by
  simp only [Bool.or_eq_true, decide_eq_true_eq]
  omega

theorem mergeSort_size_descending (items : List α) :
    (items.mergeSort fun a b ↦ decide (size b ≤ size a)).Pairwise fun a b ↦ size b ≤ size a := by
  have hranked : (items.mergeSort fun a b ↦ decide (size b ≤ size a)).Pairwise
      fun a b ↦ decide (size b ≤ size a) = true :=
    List.pairwise_mergeSort largerFirst_trans largerFirst_total items
  exact hranked.imp of_decide_eq_true

/-- The items of one size stand as they stood before they were ranked. -/
theorem filter_mergeSort_size (items : List α) (n : ℕ) :
    (items.mergeSort fun a b ↦ decide (size b ≤ size a)).filter (size · = n) =
      items.filter (size · = n) := by
  let ranked := items.mergeSort fun a b ↦ decide (size b ≤ size a)
  have hequal : (items.filter (size · = n)).Pairwise fun a b ↦ decide (size b ≤ size a) = true :=
    List.pairwise_of_forall_mem_list fun a ha b hb ↦ by
      have hsizea : size a = n := of_decide_eq_true (List.mem_filter.mp ha).2
      have hsizeb : size b = n := of_decide_eq_true (List.mem_filter.mp hb).2
      rw [hsizea, hsizeb, decide_eq_true_eq]
  have hsub : (items.filter (size · = n)).Sublist ranked :=
    List.sublist_mergeSort largerFirst_trans largerFirst_total hequal List.filter_sublist
  have hkept : (items.filter (size · = n)).Sublist (ranked.filter (size · = n)) := by
    have hfiltered := hsub.filter (size · = n)
    rw [List.filter_filter] at hfiltered
    simpa only [Bool.and_self] using hfiltered
  have hperm : (ranked.filter (size · = n)).Perm (items.filter (size · = n)) :=
    (items.mergeSort_perm _).filter _
  exact (hkept.eq_of_length hperm.length_eq.symm).symm

/-- Items that are ranked by size keep, among those of one size, the order in which they stood. -/
theorem pairwise_mergeSort_size {R : α → α → Prop} {items : List α} (hitems : items.Pairwise R) :
    (items.mergeSort fun a b ↦ decide (size b ≤ size a)).Pairwise fun a b ↦
      size a = size b → R a b := by
  rw [List.pairwise_iff_forall_sublist] at hitems ⊢
  intro a b hpair hsize
  have hsame := hpair.filter (size · = size b)
  rw [filter_mergeSort_size] at hsame
  refine hitems (List.Sublist.trans ?_ (hsame.trans List.filter_sublist))
  simp [hsize]

end Ranking

namespace Corpus

variable {c : Corpus} {k : Classifier} {records : List Record}

/-- The sheets are ranked by size, and the figures on them add up to those on the corpus. -/
structure SheetFigures (c : Corpus) (records : List Record) : Prop where
  ranked : c.sheetsBySize.Perm c.bySheet
  descending : c.sheetsBySize.Pairwise fun first second ↦ second.2.length ≤ first.2.length
  /-- Of two sheets of one size, the one whose first formula was found earlier stands first. -/
  stable : c.sheetsBySize.Pairwise fun first second ↦ first.2.length = second.2.length →
    (records.map (·.sheet)).idxOf first.1 < (records.map (·.sheet)).idxOf second.1
  sheet_sum (name : String) :
    (Category.all.map (c.sheetCategoryCount name)).sum = (c.sheet name).length
  sheet_zero_iff (name : String) :
    (∀ category, c.sheetCategoryCount name category = 0) ↔ name ∉ records.map (·.sheet)
  category_sum (category : Category) :
    (c.bySheet.map fun group ↦ c.sheetCategoryCount group.1 category).sum = c.count category
  total_sum : (c.bySheet.map (·.2.length)).sum = c.total

/-- Every formula of a sheet is counted in one category. -/
theorem sum_sheetCategoryCount (c : Corpus) (name : String) :
    c.sheetCategoryCount name .simple + c.sheetCategoryCount name .medium
      + c.sheetCategoryCount name .complex = (c.sheet name).length := by
  simp only [sheetCategoryCount, List.countP_eq_length_filter]
  exact length_filter_categories (c.sheet name)

theorem Summarizes.sheet_eq_nil_iff (hc : c.Summarizes k records) (name : String) :
    c.sheet name = [] ↔ name ∉ records.map (·.sheet) := by
  have hmem : name ∈ c.bySheet.map Prod.fst ↔ name ∈ records.map (·.sheet) := by
    rw [hc.mem_sheets, List.mem_map]
  rw [← hmem]
  exact ⟨fun hempty hknown ↦ hc.sheet_ne_nil hknown hempty, Groups.under_of_not_mem⟩

/-- The groups of the sheets, one behind the other, are the results in another order. -/
theorem flatMap_bySheet_perm (results : List Classified) :
    ((ofResults results).bySheet.flatMap Prod.snd).Perm results :=
  Groups.flatMap_byKey_perm (Groups.nodup_eraseDups _) fun r hr ↦
    mem_sheetsOf.mpr ⟨r, hr, rfl⟩

/-- What is counted in the group of each sheet is counted once. -/
theorem sum_countP_bySheet (results : List Classified) (p : Classified → Bool) :
    ((ofResults results).bySheet.map fun group ↦ group.2.countP p).sum = results.countP p := by
  calc ((ofResults results).bySheet.map fun group ↦ group.2.countP p).sum
      = ((ofResults results).bySheet.flatMap Prod.snd).countP p := List.countP_flatMap.symm
    _ = results.countP p := (flatMap_bySheet_perm results).countP_eq p

theorem sum_sheetCategoryCount_bySheet (results : List Classified) (category : Category) :
    ((ofResults results).bySheet.map fun group ↦
      (ofResults results).sheetCategoryCount group.1 category).sum =
        (ofResults results).count category := by
  have hkeys : ((ofResults results).bySheet.map Prod.fst).Nodup := by
    rw [keys_bySheet_ofResults]
    exact Groups.nodup_eraseDups _
  have hgroups : ((ofResults results).bySheet.map fun group ↦
      (ofResults results).sheetCategoryCount group.1 category) =
      (ofResults results).bySheet.map fun group ↦ group.2.countP (·.category = category) :=
    List.map_congr_left fun group hgroup ↦ by
      rw [sheetCategoryCount, sheet, Groups.under_of_mem hkeys hgroup]
  rw [hgroups, sum_countP_bySheet, count, byCategory_ofResults, List.countP_eq_length_filter]

end Corpus

/-- The sheets of an aggregate are ranked from the largest down, those of one size in the order of
their first formulas, and the counts by sheet and category add up both ways. -/
theorem Tally.aggregate_sheetFigures (k : Classifier) (records : List Record) :
    (aggregate k records).SheetFigures records := by
  rw [aggregate_eq]
  have hc : (Corpus.ofRecords k records).Summarizes k records :=
    Corpus.ofRecords_summarizes k records
  have hordered := hc.sheets_ordered
  rw [List.pairwise_map] at hordered
  exact {
    ranked := List.mergeSort_perm _ _
    descending := mergeSort_size_descending _
    stable := pairwise_mergeSort_size hordered
    sheet_sum := fun name ↦ by
      rw [← Corpus.sum_sheetCategoryCount]
      simp only [Category.all, List.map_cons, List.map_nil, List.sum_cons, List.sum_nil]
      omega
    sheet_zero_iff := fun name ↦ by
      have hsum := (Corpus.ofRecords k records).sum_sheetCategoryCount name
      rw [← hc.sheet_eq_nil_iff, ← List.length_eq_zero_iff, ← hsum]
      refine ⟨fun hzero ↦ by simp [hzero], fun hzero category ↦ ?_⟩
      cases category <;> omega
    category_sum := Corpus.sum_sheetCategoryCount_bySheet _
    total_sum := by
      rw [← List.length_flatMap]
      exact (Corpus.flatMap_bySheet_perm _).length_eq }

end FormulaAudit
