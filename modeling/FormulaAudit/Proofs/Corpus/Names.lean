import FormulaAudit.Corpus
import Mathlib.Data.List.Sort
import Mathlib.Data.String.Basic

/-!
The names that results call, ascending and each once: what `namesOf` returns is strictly ascending
(`ascending_namesOf`) and holds the names of all results (`mem_namesOf`). A strictly ascending list
is known by its members alone (`Ascending.eq_of_mem_iff`), so that however the names are gathered
the list is the same.
-/

set_option autoImplicit false

namespace FormulaAudit

/-- Names in strictly ascending order. -/
def Ascending (names : List String) : Prop := names.Pairwise (· < ·)

theorem Ascending.eq_of_mem_iff {first second : List String} (hfirst : Ascending first)
    (hsecond : Ascending second) (hmem : ∀ name, name ∈ first ↔ name ∈ second) : first = second :=
  List.Pairwise.eq_of_mem_iff hfirst hsecond hmem

/-- Erasing repetitions from an ascending list, with what is kept so far in front of it, leaves a
strictly ascending list. -/
theorem ascending_eraseReps_loop {name : String} {names kept : List String}
    (hkept : (name :: kept).Pairwise (· > ·)) (hnames : (name :: names).Pairwise (· ≤ ·)) :
    Ascending (List.eraseRepsBy.loop (· == ·) name names kept) := by
  induction names generalizing name kept with
  | nil => exact List.pairwise_reverse.mpr hkept
  | cons next names ih =>
    obtain ⟨hnext, hrest⟩ := List.pairwise_cons.mp hnames
    rw [List.eraseRepsBy.loop]
    by_cases heq : name = next
    · rw [beq_iff_eq.mpr heq]
      exact ih hkept (heq ▸ hrest)
    · have hlt : name < next := lt_of_le_of_ne (hnext next List.mem_cons_self) heq
      rw [beq_false_of_ne heq]
      refine ih (List.pairwise_cons.mpr ⟨fun other hother ↦ ?_, hkept⟩) hrest
      rcases List.mem_cons.mp hother with rfl | hlater
      · exact hlt
      · exact lt_trans ((List.pairwise_cons.mp hkept).1 other hlater) hlt

theorem mem_eraseReps_loop {name other : String} {names kept : List String} :
    other ∈ List.eraseRepsBy.loop (· == ·) name names kept ↔
      other = name ∨ other ∈ names ∨ other ∈ kept := by
  induction names generalizing name kept with
  | nil => simp [List.eraseRepsBy.loop, or_comm]
  | cons next names ih =>
    rw [List.eraseRepsBy.loop]
    by_cases heq : name = next
    · rw [beq_iff_eq.mpr heq, ih, heq, List.mem_cons]
      tauto
    · rw [beq_false_of_ne heq, ih, List.mem_cons, List.mem_cons]
      tauto

theorem ascending_eraseReps {names : List String} (hnames : names.Pairwise (· ≤ ·)) :
    Ascending names.eraseReps := by
  cases names with
  | nil => exact List.Pairwise.nil
  | cons name names => exact ascending_eraseReps_loop (List.pairwise_singleton _ _) hnames

theorem mem_eraseReps {name : String} {names : List String} :
    name ∈ names.eraseReps ↔ name ∈ names := by
  cases names with
  | nil => exact Iff.rfl
  | cons first names =>
    rw [List.eraseReps, List.eraseRepsBy, mem_eraseReps_loop, List.mem_cons]
    simp

namespace Corpus

theorem namesOf_nil : namesOf [] = [] := by
  rw [namesOf, List.flatMap_nil, List.mergeSort_nil]
  rfl

theorem ascending_namesOf (results : List Classified) : Ascending (namesOf results) :=
  ascending_eraseReps (List.pairwise_mergeSort' (· ≤ ·) _)

theorem mem_namesOf {name : String} {results : List Classified} :
    name ∈ namesOf results ↔ ∃ result ∈ results, name ∈ result.features.functionNames := by
  rw [namesOf, mem_eraseReps, List.mem_mergeSort, List.mem_flatMap]

end Corpus

end FormulaAudit
