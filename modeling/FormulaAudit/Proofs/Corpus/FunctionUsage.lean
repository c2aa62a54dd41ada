import FormulaAudit.FunctionCatalogue
import FormulaAudit.Proofs.Tally.Session
import Mathlib

/-!
How many formulas call each function. The names are gathered over the whole corpus and the counts are
taken from its results one by one; both rest on the same calls, so that no name is left with a count
of zero. The pairs of a formula and a function that it calls are as many whether they are counted by
function or by formula (`sum_countP_comm`), so the counts add up to how many different functions each
formula calls. `CountsCalls` says what the counts owe the records, and those of every aggregate do
(`aggregate_countsCalls`).
-/

set_option autoImplicit false

namespace FormulaAudit

/-- The formula of the record calls the function, once or more often. -/
def Record.Calls (record : Record) (name : String) : Prop :=
  name ∈ Features.functionNamesOf record.formula

instance (record : Record) (name : String) : Decidable (record.Calls name) :=
  inferInstanceAs (Decidable (name ∈ Features.functionNamesOf record.formula))

theorem Classifier.functionNames_classify (k : Classifier) (record : Record) :
    (k.classify record).features.functionNames = Features.functionNamesOf record.formula := by
  unfold classify
  cases k.book.decidingRule? record.formula <;> rfl

section Counting

variable {α β : Type}

theorem sum_map_ite_eq_countP (p : α → Bool) (items : List α) :
    (items.map fun a ↦ if p a then 1 else 0).sum = items.countP p := by
  induction items with
  | nil => rfl
  | cons a items ih => rw [List.map_cons, List.sum_cons, ih, List.countP_cons, Nat.add_comm]

/-- Related pairs are as many from the one side as from the other. -/
theorem sum_countP_comm (related : α → β → Bool) (items : List α) (others : List β) :
    (items.map fun a ↦ others.countP (related a)).sum =
      (others.map fun b ↦ items.countP (related · b)).sum := by
  induction others with
  | nil => simp
  | cons b others ih =>
    calc (items.map fun a ↦ (b :: others).countP (related a)).sum
        = (items.map fun a ↦ others.countP (related a) + if related a b then 1 else 0).sum := by
          simp only [List.countP_cons]
      _ = (items.map fun a ↦ others.countP (related a)).sum + items.countP (related · b) := by
          rw [List.sum_map_add, sum_map_ite_eq_countP]
      _ = ((b :: others).map fun b ↦ items.countP (related · b)).sum := by
          rw [ih, List.map_cons, List.sum_cons, Nat.add_comm]

/-- Among names without repetitions that leave none of the others out, the others are found as often
as there are different ones. -/
theorem countP_mem_eq_card {names others : List String} (hnames : names.Nodup)
    (hothers : ∀ name ∈ others, name ∈ names) :
    names.countP (· ∈ others) = others.toFinset.card := by
  have hsame : (names.filter (· ∈ others)).toFinset = others.toFinset := by
    ext name
    rw [List.mem_toFinset, List.mem_toFinset, List.mem_filter, decide_eq_true_eq]
    exact and_iff_right_of_imp (hothers name)
  rw [List.countP_eq_length_filter, ← List.toFinset_card_of_nodup (hnames.filter _), hsame]

end Counting

namespace Corpus

variable {c : Corpus} {k : Classifier} {records : List Record}

/-- The usage has an entry for each function that a formula calls, by name, with the number of the
records whose formulas call it. -/
structure CountsCalls (c : Corpus) (records : List Record) : Prop where
  ascending : c.functionUsage.Pairwise fun first second ↦ first.name < second.name
  mem_names (name : String) :
    name ∈ c.functionUsage.map (·.name) ↔ ∃ record ∈ records, record.Calls name
  /-- However often its formula calls the function, a record counts once; one that is there twice
  counts twice. -/
  formulas : ∀ use ∈ c.functionUsage, use.formulas = records.countP (·.Calls use.name)
  one_le_formulas : ∀ use ∈ c.functionUsage, 1 ≤ use.formulas
  formulas_le_total : ∀ use ∈ c.functionUsage, use.formulas ≤ c.total
  sum_formulas : (c.functionUsage.map (·.formulas)).sum =
    (records.map fun record ↦ (Features.functionNamesOf record.formula).toFinset.card).sum

theorem names_functionUsage (c : Corpus) : c.functionUsage.map (·.name) = c.functionNames := by
  rw [functionUsage, List.map_map]
  exact List.map_id _

theorem formulas_functionUsage (c : Corpus) : c.functionUsage.map (·.formulas) =
    c.functionNames.map fun name ↦ c.results.countP (name ∈ ·.features.functionNames) := by
  rw [functionUsage, List.map_map]
  rfl

theorem Summarizes.countP_calls (hc : c.Summarizes k records) (name : String) :
    c.results.countP (name ∈ ·.features.functionNames) = records.countP (·.Calls name) := by
  rw [hc.results, List.countP_map]
  simp only [Function.comp_def, k.functionNames_classify]
  rfl

theorem Summarizes.mem_functionNames_iff (hc : c.Summarizes k records) (name : String) :
    name ∈ c.functionNames ↔ ∃ record ∈ records, record.Calls name := by
  rw [hc.mem_names, hc.results]
  simp only [List.mem_map, exists_exists_and_eq_and, k.functionNames_classify]
  rfl

theorem Summarizes.formulas_eq (hc : c.Summarizes k records) {use : FunctionUse}
    (huse : use ∈ c.functionUsage) :
    use.formulas = records.countP (·.Calls use.name) := by
  obtain ⟨name, -, rfl⟩ := List.mem_map.mp huse
  exact hc.countP_calls name

theorem Summarizes.sum_formulas (hc : c.Summarizes k records) :
    (c.functionUsage.map (·.formulas)).sum =
      (records.map fun record ↦ (Features.functionNamesOf record.formula).toFinset.card).sum := by
  have hnodup : c.functionNames.Nodup := hc.names_ascending.imp ne_of_lt
  have hcalled : ∀ record ∈ records, c.functionNames.countP (record.Calls ·) =
      (Features.functionNamesOf record.formula).toFinset.card := fun record hrecord ↦
    countP_mem_eq_card hnodup fun name hname ↦
      (hc.mem_functionNames_iff name).mpr ⟨record, hrecord, hname⟩
  calc (c.functionUsage.map (·.formulas)).sum
      = (c.functionNames.map fun name ↦ records.countP (·.Calls name)).sum := by
        simp only [formulas_functionUsage, hc.countP_calls]
    _ = (records.map fun (record : Record) ↦ c.functionNames.countP (record.Calls ·)).sum :=
        sum_countP_comm (fun name (record : Record) ↦ decide (record.Calls name)) _ _
    _ = (records.map fun record ↦ (Features.functionNamesOf record.formula).toFinset.card).sum :=
        congrArg List.sum (List.map_congr_left hcalled)

end Corpus

/-- The usage of functions in an aggregate counts, function by function, the records whose formulas
call it. -/
theorem Tally.aggregate_countsCalls (k : Classifier) (records : List Record) :
    (aggregate k records).CountsCalls records := by
  have hc := summarizes_aggregate k records
  have hnames := (aggregate k records).names_functionUsage
  exact {
    ascending := by
      rw [← List.pairwise_map (R := fun first second ↦ first < second), hnames]
      exact hc.names_ascending
    mem_names := fun name ↦ by rw [hnames, hc.mem_functionNames_iff]
    formulas := fun use ↦ hc.formulas_eq
    one_le_formulas := fun use huse ↦ by
      have hname : use.name ∈ (aggregate k records).functionNames :=
        hnames ▸ List.mem_map_of_mem huse
      obtain ⟨record, hrecord, hcalls⟩ := (hc.mem_functionNames_iff use.name).mp hname
      rw [hc.formulas_eq huse, Nat.one_le_iff_ne_zero, ← Nat.pos_iff_ne_zero]
      exact List.countP_pos_iff.mpr ⟨record, hrecord, decide_eq_true hcalls⟩
    formulas_le_total := fun use huse ↦ by
      rw [hc.formulas_eq huse, Corpus.total, hc.results, List.length_map]
      exact List.countP_le_length
    sum_formulas := hc.sum_formulas }

end FormulaAudit
