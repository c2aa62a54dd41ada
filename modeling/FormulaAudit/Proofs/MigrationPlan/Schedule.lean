import FormulaAudit.Proofs.Number.Tenths
import FormulaAudit.Proofs.Tally.Session
import FormulaAudit.Request
import Mathlib.Algebra.BigOperators.Group.List.Basic

/-!
What a migration plan owes the corpus. `Schedules` says it in exact arithmetic: the parts of medium
and complex formulas are those that the shares stand for, rounded to whole formulas, the two parts
of a category make up the category, and the phases together take every formula. Plans are worked out
in binary floating point, and come out the same for every corpus of up to `2 ^ 40` formulas
(`requestPlan_schedules`).
-/

set_option autoImplicit false

namespace FormulaAudit

/-- The plan moves every formula of the corpus once. -/
structure MigrationPlan.Schedules (plan : MigrationPlan) (c : Corpus) : Prop where
  essentialMedium : plan.essentialMedium = 2 * c.count .medium / 5
  remainingMedium : plan.remainingMedium = (3 * c.count .medium) ⌈/⌉ 5
  selectedComplex : plan.selectedComplex = 3 * c.count .complex / 10
  remainingComplex : plan.remainingComplex = (7 * c.count .complex) ⌈/⌉ 10
  medium_split : plan.essentialMedium + plan.remainingMedium = c.count .medium
  complex_split : plan.selectedComplex + plan.remainingComplex = c.count .complex
  targets_sum : (plan.phases.map (·.target)).sum = c.total
  total : plan.total = c.total

namespace Corpus

variable {c : Corpus} {k : Classifier} {records : List Record}

theorem migrationPlan_schedules (hc : c.Summarizes k records) (hsize : c.total ≤ 2 ^ 40) :
    c.migrationPlan.Schedules c := by
  have htotal := hc.total_eq
  have hmedium : c.count .medium ≤ 2 ^ 40 := by omega
  have hcomplex : c.count .complex ≤ 2 ^ 40 := by omega
  have hessential : c.migrationPlan.essentialMedium = 2 * c.count .medium / 5 :=
    tenthsBelow_four hmedium
  have hremaining : c.migrationPlan.remainingMedium = (3 * c.count .medium) ⌈/⌉ 5 :=
    tenthsAbove_six hmedium
  have hselected : c.migrationPlan.selectedComplex = 3 * c.count .complex / 10 :=
    tenthsBelow_three hcomplex
  have hrest : c.migrationPlan.remainingComplex = (7 * c.count .complex) ⌈/⌉ 10 :=
    tenthsAbove_seven hcomplex
  have hmediumSplit : c.migrationPlan.essentialMedium + c.migrationPlan.remainingMedium =
      c.count .medium := by
    rw [hessential, hremaining, Nat.ceilDiv_eq_add_pred_div]
    omega
  have hcomplexSplit : c.migrationPlan.selectedComplex + c.migrationPlan.remainingComplex =
      c.count .complex := by
    rw [hselected, hrest, Nat.ceilDiv_eq_add_pred_div]
    omega
  have htargets : (c.migrationPlan.phases.map (·.target)).sum =
      ((c.count .simple + c.migrationPlan.essentialMedium : ℕ) : ℤ) +
        ((c.migrationPlan.remainingMedium + c.migrationPlan.selectedComplex : ℕ) +
          ((c.migrationPlan.remainingComplex : ℕ) + 0)) := rfl
  refine ⟨hessential, hremaining, hselected, hrest, hmediumSplit, hcomplexSplit, ?_, rfl⟩
  rw [htargets]
  omega

/-- Every corpus of up to `2 ^ 40` formulas that is not empty has a plan, and the plan schedules
every formula of it once. -/
theorem requestPlan_schedules (k : Classifier) (records : List Record)
    (hfilled : (Tally.aggregate k records).isEmpty = false)
    (hsize : (Tally.aggregate k records).count .simple + (Tally.aggregate k records).count .medium
      + (Tally.aggregate k records).count .complex ≤ 2 ^ 40) :
    ∃ plan, (Tally.aggregate k records).requestPlan = .ok plan ∧
      plan.Schedules (Tally.aggregate k records) := by
  have hsummary := Tally.summarizes_aggregate k records
  rw [← hsummary.total_eq] at hsize
  refine ⟨(Tally.aggregate k records).migrationPlan, ?_, migrationPlan_schedules hsummary hsize⟩
  rw [requestPlan, unlessEmpty, hfilled]
  rfl

/-- Three formulas, one of each category. -/
theorem requestPlan_schedules_three :
    ∃ plan, (Tally.aggregate .standard
        [{ sheet := "Data", cell := "A1", formula := "B1" },
          { sheet := "Data", cell := "A2", formula := "MAX(MIN(B1,B2),SUM(B3,B4),ABS(B5))" },
          { sheet := "Data", cell := "A3", formula := "SUMPRODUCT(B1,B2)" }]).requestPlan =
        .ok plan ∧ plan.essentialMedium = 0 ∧ plan.remainingMedium = 1 ∧
          plan.selectedComplex = 0 ∧ plan.remainingComplex = 1 := by
  obtain ⟨plan, hplan, hschedules⟩ := requestPlan_schedules .standard
    [{ sheet := "Data", cell := "A1", formula := "B1" },
      { sheet := "Data", cell := "A2", formula := "MAX(MIN(B1,B2),SUM(B3,B4),ABS(B5))" },
      { sheet := "Data", cell := "A3", formula := "SUMPRODUCT(B1,B2)" }]
    (by decide +kernel) (by decide +kernel)
  refine ⟨plan, hplan, ?_⟩
  rw [hschedules.essentialMedium, hschedules.remainingMedium, hschedules.selectedComplex,
    hschedules.remainingComplex]
  decide +kernel

end Corpus

end FormulaAudit
