import FormulaAudit.Proofs.MigrationPlan.Schedule

/-!
The coverage of each phase of a plan is a number (`exists_coverage`). Up to `2 ^ 40` formulas a phase
moves a part of them. Beyond that a part of a category may be rounded to anything that binary
floating point can hold, but divided by so many formulas that is still within its range.
-/

set_option autoImplicit false

namespace FormulaAudit

namespace Binary64

/-! ### The greatest number -/

/-- Two to this exponent is above every number that can be held. -/
@[irreducible]
def topExponent : ℕ := 1024

theorem topExponent_eq : (topExponent : ℤ) = 53 + 971 := by
  unfold topExponent
  rfl

theorem significandAt_lastPlace_le {num den : ℕ} (hnum : 0 < num) (hden : 0 < den) :
    significandAt num den (lastPlace num den) ≤ 2 ^ 53 := by
  have hstep : (0 : ℚ) < 2 ^ lastPlace num den := by positivity
  have hplace : magnitude num den + 1 ≤ 53 + lastPlace num den := by
    rw [lastPlace]
    omega
  have hquotient : (num / den / 2 ^ lastPlace num den : ℚ) < 2 ^ 53 := by
    rw [div_lt_iff₀ hstep, ← zpow_natCast, ← zpow_add₀ two_ne_zero]
    exact (two_zpow_magnitude_bounds hnum hden).2.trans_le (zpow_le_zpow_right₀ one_le_two hplace)
  have hnear : (significandAt num den (lastPlace num den) : ℚ) -
      num / den / 2 ^ lastPlace num den ≤ 1 / 2 :=
    (abs_le.mp (abs_significandAt_sub_le hden _)).2
  have hlt : (significandAt num den (lastPlace num den) : ℚ) < (2 ^ 53 + 1 : ℕ) := by
    push_cast
    linarith
  exact Nat.le_of_lt_succ (by exact_mod_cast hlt)

theorem value_finite_le (negative : Bool) {significand : ℕ} {place : ℤ}
    (hsignificand : significand ≤ 2 ^ 53) (hplace : place ≤ 971) :
    (finite negative significand place).value ≤ 2 ^ (topExponent : ℤ) := by
  have hcast : (significand : ℚ) ≤ 2 ^ (53 : ℤ) := by exact_mod_cast hsignificand
  have hsigned : (if negative then -(significand : ℚ) else significand) ≤ significand := by
    split
    · linarith [(Nat.cast_nonneg significand : (0 : ℚ) ≤ significand)]
    · exact le_rfl
  calc (if negative then -(significand : ℚ) else significand) * 2 ^ place
      ≤ significand * 2 ^ place := mul_le_mul_of_nonneg_right hsigned (by positivity)
    _ ≤ 2 ^ (53 : ℤ) * 2 ^ (971 : ℤ) :=
        mul_le_mul hcast (zpow_le_zpow_right₀ one_le_two hplace) (by positivity) (by positivity)
    _ = 2 ^ (topExponent : ℤ) := by rw [topExponent_eq, zpow_add₀ two_ne_zero]

theorem value_ofRatio_le (negative : Bool) (num : ℕ) {den : ℕ} (hden : 0 < den) :
    (ofRatio negative num den).value ≤ 2 ^ (topExponent : ℤ) := by
  have hnone : (0 : ℚ) ≤ 2 ^ (topExponent : ℤ) := by positivity
  have hzero : (zero negative).value ≤ 2 ^ (topExponent : ℤ) := by rwa [value_zero]
  have hkept {significand : ℕ} {place : ℤ} (hsignificand : significand ≤ 2 ^ 53) :
      (if 971 < place then infinite negative else finite negative significand place).value ≤
        2 ^ (topExponent : ℤ) := by
    split
    case isTrue => exact hnone
    case isFalse hplace => exact value_finite_le negative hsignificand (not_lt.mp hplace)
  rcases Nat.eq_zero_or_pos num with rfl | hnum
  · exact hzero
  have hsignificand := significandAt_lastPlace_le hnum hden
  have hfold : roundHalfEven (num * power 2 (-lastPlace num den))
      (den * power 2 (lastPlace num den)) = significandAt num den (lastPlace num den) := rfl
  rw [ofRatio, if_neg hnum.ne']
  simp only [hfold]
  by_cases hempty : significandAt num den (lastPlace num den) = 0
  · rwa [if_pos hempty]
  rw [if_neg hempty]
  by_cases hcarried : significandAt num den (lastPlace num den) = power 2 53
  · rw [if_pos hcarried, if_pos hcarried]
    exact hkept (by decide)
  · rw [if_neg hcarried, if_neg hcarried]
    exact hkept hsignificand

theorem value_mul_le (x y : Binary64) : (x * y).value ≤ 2 ^ (topExponent : ℤ) := by
  have hnone : (0 : ℚ) ≤ 2 ^ (topExponent : ℤ) := by positivity
  show (mul x y).value ≤ _
  unfold mul
  split
  case h_1 => exact value_ofRatio_le _ _ (power_pos (by decide) _)
  case h_2 | h_3 | h_6 => exact hnone
  all_goals split <;> exact hnone

/-- Rounded down or up, a product of numbers is within their range. -/
theorem whole_mul_le (x y : Binary64) :
    (x * y).floor?.getD 0 ≤ 2 ^ topExponent ∧ (x * y).ceil?.getD 0 ≤ 2 ^ topExponent := by
  have hvalue := value_mul_le x y
  generalize x * y = product at hvalue
  have hpower : ((2 ^ topExponent : ℤ) : ℚ) = 2 ^ (topExponent : ℤ) := by norm_cast
  cases product with
  | infinite | nan => exact ⟨by positivity, by positivity⟩
  | finite negative significand exponent =>
    have hnegated : (finite (!negative) significand exponent).value =
        -(finite negative significand exponent).value := by
      cases negative <;> simp [value]
    rw [ceil?, floor?_finite, floor?_finite, hnegated, Option.map_some, Option.getD_some,
      Option.getD_some, Int.floor_neg, neg_neg, Int.ceil_le, hpower]
    refine ⟨?_, hvalue⟩
    have hfloor := (Int.floor_le (finite negative significand exponent).value).trans hvalue
    rw [← hpower] at hfloor
    exact_mod_cast hfloor

end Binary64

theorem tenthsBelow_le (count tenths : ℕ) :
    tenthsBelow count tenths ≤ 2 ^ Binary64.topExponent :=
  Int.toNat_le.mpr (Binary64.whole_mul_le _ _).1

theorem tenthsAbove_le (count tenths : ℕ) :
    tenthsAbove count tenths ≤ 2 ^ Binary64.topExponent :=
  Int.toNat_le.mpr (Binary64.whole_mul_le _ _).2

/-! ### Coverage -/

theorem exists_coverage_of_size {target total : ℕ} (htotal : 0 < total)
    (hsize : (target / total : ℚ) < 2 ^ (1023 : ℤ)) :
    ∃ share, coverage target total = .ok share := by
  obtain ⟨place, hrounded⟩ := Binary64.exists_roundedAt_ofRatio htotal hsize
  obtain ⟨significand, exponent, hfinite⟩ := hrounded.unsigned
  have hquotient : Binary64.quotient? target total =
      some (.finite false significand exponent) := by
    have hsigns : (decide ((target : ℤ) < 0) != decide ((total : ℤ) < 0)) = false := by
      rw [decide_eq_false (by omega), decide_eq_false (by omega)]
      rfl
    rw [Binary64.quotient?, hsigns, Int.natAbs_natCast, Int.natAbs_natCast, hfinite]
  rw [coverage, if_neg (by omega), hquotient]
  exact ⟨_, rfl⟩

namespace Corpus

variable {c : Corpus} {k : Classifier} {records : List Record}

/-- A phase has no more formulas than the corpus and twice the greatest rounded part, and no more
than a small corpus. -/
theorem exists_target (hc : c.Summarizes k records) {phase : Phase}
    (hphase : phase ∈ c.migrationPlan.phases) : ∃ target : ℕ, phase.target = target ∧
      target ≤ c.total + 2 * 2 ^ Binary64.topExponent ∧
      (c.total ≤ 2 ^ 40 → target ≤ c.total) := by
  have htotal := hc.total_eq
  have hessential : c.migrationPlan.essentialMedium ≤ 2 ^ Binary64.topExponent := tenthsBelow_le _ _
  have hremaining : c.migrationPlan.remainingMedium ≤ 2 ^ Binary64.topExponent := tenthsAbove_le _ _
  have hselected : c.migrationPlan.selectedComplex ≤ 2 ^ Binary64.topExponent := tenthsBelow_le _ _
  have hrest : c.migrationPlan.remainingComplex ≤ 2 ^ Binary64.topExponent := tenthsAbove_le _ _
  have hphases : phase = c.migrationPlan.foundation ∨ phase = c.migrationPlan.enhancement ∨
      phase = c.migrationPlan.completion := by
    simpa only [MigrationPlan.phases, List.mem_cons, List.not_mem_nil, or_false] using hphase
  rcases hphases with rfl | rfl | rfl
  · refine ⟨c.count .simple + c.migrationPlan.essentialMedium, rfl, by omega, fun hsize ↦ ?_⟩
    have hsplit := (migrationPlan_schedules hc hsize).medium_split
    omega
  · refine ⟨c.migrationPlan.remainingMedium + c.migrationPlan.selectedComplex, rfl, by omega,
      fun hsize ↦ ?_⟩
    have hmedium := (migrationPlan_schedules hc hsize).medium_split
    have hcomplex := (migrationPlan_schedules hc hsize).complex_split
    omega
  · refine ⟨c.migrationPlan.remainingComplex, rfl, by omega, fun hsize ↦ ?_⟩
    have hsplit := (migrationPlan_schedules hc hsize).complex_split
    omega

/-- Each phase of the plan for a corpus that is not empty covers a number of per cent. -/
theorem exists_coverage (hc : c.Summarizes k records) (hfull : c.isEmpty = false) :
    ∀ phase ∈ c.migrationPlan.phases, ∃ share, coverage phase.target c.total = .ok share := by
  intro phase hphase
  obtain ⟨target, htarget, hmost, hsmall⟩ := exists_target hc hphase
  have htotal : 0 < c.total := List.length_pos_iff.mpr (List.isEmpty_eq_false_iff.mp hfull)
  have hpos : (0 : ℚ) < c.total := Nat.cast_pos.mpr htotal
  rw [htarget]
  refine exists_coverage_of_size htotal ?_
  by_cases hsize : c.total ≤ 2 ^ 40
  · have hone : (target / c.total : ℚ) ≤ 1 := by
      rw [div_le_one hpos]
      exact_mod_cast hsmall hsize
    exact hone.trans_lt (one_lt_zpow₀ one_lt_two (by decide))
  · have hlarge : (2 : ℚ) ^ (40 : ℤ) ≤ c.total := by exact_mod_cast (not_le.mp hsize).le
    have hpart : (target : ℚ) ≤ c.total + 2 * 2 ^ (Binary64.topExponent : ℤ) := by
      exact_mod_cast hmost
    have hstep : (1 : ℚ) ≤ 2 ^ ((Binary64.topExponent : ℤ) + 1 - 40) := by
      refine one_le_zpow₀ one_le_two ?_
      rw [Binary64.topExponent_eq]
      decide
    calc (target / c.total : ℚ) ≤ (c.total + 2 * 2 ^ (Binary64.topExponent : ℤ)) / c.total := by
          gcongr
      _ = 1 + 2 * 2 ^ (Binary64.topExponent : ℤ) / c.total := by
          rw [add_div, div_self hpos.ne']
      _ ≤ 1 + 2 * 2 ^ (Binary64.topExponent : ℤ) / 2 ^ (40 : ℤ) := by gcongr
      _ = 1 + 2 ^ ((Binary64.topExponent : ℤ) + 1 - 40) := by
          rw [zpow_sub₀ two_ne_zero, zpow_add_one₀ two_ne_zero, mul_comm (2 : ℚ)]
      _ ≤ 2 ^ ((Binary64.topExponent : ℤ) + 1 - 40 + 1) := by
          rw [zpow_add_one₀ two_ne_zero]
          linarith
      _ < 2 ^ (1023 : ℤ) := by
          refine zpow_lt_zpow_right₀ one_lt_two ?_
          rw [Binary64.topExponent_eq]
          decide

end Corpus

end FormulaAudit
