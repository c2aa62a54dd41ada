import FormulaAudit.Number.Binary64
import Mathlib.Algebra.Order.Field.Power
import Mathlib.Data.Rat.Floor
import Mathlib.Tactic.FieldSimp
import Mathlib.Tactic.Linarith
import Mathlib.Tactic.NormNum
import Mathlib.Tactic.Positivity
import Mathlib.Tactic.Ring

/-!
The values of binary floating-point numbers, as rational numbers, and what one rounding does to a
value that is not below zero. `RoundedAt` says all of it: a number is the multiple of a power of two
that is nearest to the exact value, and the power is that of the last of 53 bits. Quotients and
products are rounded in this way (`exists_roundedAt_ofRatio`, `exists_roundedAt_mul`), unless they
are beyond the greatest number. It follows that rounding never passes a coarser multiple
(`RoundedAt.le_value`, `RoundedAt.value_le`) and that it meets a multiple that is near enough
(`RoundedAt.value_eq`), in particular one that the exact value falls just short of
(`RoundedAt.le_value_of_short`).
-/

set_option autoImplicit false

namespace FormulaAudit

/-- A power with an integer exponent is the quotient of its two sides. -/
theorem cast_power_two (k : ℤ) : (power 2 k : ℚ) = power 2 (-k) * 2 ^ k := by
  obtain ⟨n, rfl | rfl⟩ := k.eq_nat_or_neg
  · simp [power]
  · simp [power]

theorem cast_power_two_pos (k : ℤ) : (0 : ℚ) < power 2 k :=
  Nat.cast_pos.mpr (power_pos (by decide) k)

theorem abs_roundHalfEven_sub_le (num : ℕ) {den : ℕ} (hden : 0 < den) :
    |(roundHalfEven num den : ℚ) - num / den| ≤ 1 / 2 := by
  have hpos : (0 : ℚ) < den := Nat.cast_pos.mpr hden
  obtain ⟨hover, hunder⟩ := roundHalfEven_near num hden
  have hover' : 2 * ((roundHalfEven num den : ℚ) * den) ≤ 2 * num + den := by exact_mod_cast hover
  have hunder' : 2 * (num : ℚ) ≤ 2 * (roundHalfEven num den * den) + den := by
    exact_mod_cast hunder
  have hquotient : (num / den : ℚ) * den = num := div_mul_cancel₀ _ hpos.ne'
  rw [abs_le]
  constructor <;> nlinarith

namespace Binary64

/-- What a finite number stands for; no other number stands for a rational number. -/
def value : Binary64 → ℚ
  | finite negative significand exponent =>
    (if negative then -(significand : ℚ) else significand) * 2 ^ exponent
  | infinite _ | nan => 0

/-- The number is finite and bears no minus sign. -/
def IsUnsigned (x : Binary64) : Prop :=
  ∃ significand exponent, x = finite false significand exponent

theorem IsUnsigned.value_nonneg {x : Binary64} (hx : x.IsUnsigned) : 0 ≤ x.value := by
  obtain ⟨significand, exponent, rfl⟩ := hx
  simp only [value, Bool.false_eq_true, if_false]
  positivity

/-! ### Whole numbers next to a number -/

/-- The numerator that comparisons with whole numbers are made with. -/
theorem cast_numerator (negative : Bool) (significand : ℕ) (exponent : ℤ) :
    ((if negative then -((significand : ℤ) * power 2 exponent)
        else (significand : ℤ) * power 2 exponent : ℤ) : ℚ) =
      (finite negative significand exponent).value * power 2 (-exponent) := by
  have hpower := cast_power_two exponent
  cases negative <;> simp [value, hpower] <;> ring

theorem floor?_finite (negative : Bool) (significand : ℕ) (exponent : ℤ) :
    (finite negative significand exponent).floor? =
      some ⌊(finite negative significand exponent).value⌋ := by
  have hpos := (cast_power_two_pos (-exponent)).ne'
  rw [floor?]
  refine congrArg some ?_
  rw [Int.fdiv_eq_ediv_of_nonneg _ (Int.natCast_nonneg _), ← Rat.floor_intCast_div_natCast,
    cast_numerator, mul_div_cancel_right₀ _ hpos]

theorem isBelow_finite (negative : Bool) (significand : ℕ) (exponent n : ℤ) :
    (finite negative significand exponent).isBelow n = true ↔
      (finite negative significand exponent).value < n := by
  have hpos := cast_power_two_pos (-exponent)
  rw [isBelow, decide_eq_true_eq, ← Int.cast_lt (R := ℚ), cast_numerator, Int.cast_mul,
    Int.cast_natCast, mul_lt_mul_iff_left₀ hpos]

theorem IsUnsigned.floor?_eq {x : Binary64} (hx : x.IsUnsigned) : x.floor? = some ⌊x.value⌋ := by
  obtain ⟨significand, exponent, rfl⟩ := hx
  exact floor?_finite false significand exponent

theorem IsUnsigned.ceil?_eq {x : Binary64} (hx : x.IsUnsigned) : x.ceil? = some ⌈x.value⌉ := by
  obtain ⟨significand, exponent, rfl⟩ := hx
  have hnegated : (finite true significand exponent).value =
      -(finite false significand exponent).value := by simp [value]
  rw [ceil?, Bool.not_false, floor?_finite, Option.map_some, hnegated, Int.floor_neg, neg_neg]

theorem IsUnsigned.isBelow_iff {x : Binary64} (hx : x.IsUnsigned) (n : ℤ) :
    x.isBelow n = true ↔ x.value < n := by
  obtain ⟨significand, exponent, rfl⟩ := hx
  exact isBelow_finite false significand exponent n

/-! ### The leading bit of a quotient -/

section Magnitude

variable {num den : ℕ}

theorem lt_power_iff (hden : 0 < den) (k : ℤ) :
    num * power 2 (-k) < den * power 2 k ↔ (num / den : ℚ) < 2 ^ k := by
  have hpos : (0 : ℚ) < den := Nat.cast_pos.mpr hden
  have hcast : num * power 2 (-k) < den * power 2 k ↔
      (num : ℚ) * power 2 (-k) < 2 ^ k * den * power 2 (-k) := by
    have hright : (2 : ℚ) ^ k * den * power 2 (-k) = den * power 2 k := by
      rw [cast_power_two k]
      ring
    rw [hright]
    exact_mod_cast Iff.rfl
  rw [hcast, mul_lt_mul_iff_left₀ (cast_power_two_pos (-k)), div_lt_iff₀ hpos]

theorem two_zpow_log2_le {n : ℕ} (hn : 0 < n) : (2 : ℚ) ^ (n.log2 : ℤ) ≤ n := by
  rw [zpow_natCast]
  exact_mod_cast Nat.log2_self_le hn.ne'

theorem lt_two_zpow_log2 (n : ℕ) : (n : ℚ) < 2 ^ ((n.log2 : ℤ) + 1) := by
  have hlt : n < 2 ^ (n.log2 + 1) := Nat.lt_log2_self
  exact_mod_cast hlt

/-- The logarithms of both sides settle the leading bit of the quotient up to one place. -/
theorem two_zpow_guess_bounds (hnum : 0 < num) (hden : 0 < den) :
    (2 : ℚ) ^ ((num.log2 : ℤ) - den.log2 - 1) ≤ num / den ∧
      (num / den : ℚ) < 2 ^ ((num.log2 : ℤ) - den.log2 + 1) := by
  have hpos : (0 : ℚ) < den := Nat.cast_pos.mpr hden
  constructor
  · rw [le_div_iff₀ hpos]
    calc (2 : ℚ) ^ ((num.log2 : ℤ) - den.log2 - 1) * den
        ≤ 2 ^ ((num.log2 : ℤ) - den.log2 - 1) * 2 ^ ((den.log2 : ℤ) + 1) := by
          gcongr
          exact (lt_two_zpow_log2 den).le
      _ = 2 ^ (num.log2 : ℤ) := by
          rw [← zpow_add₀ two_ne_zero]
          ring_nf
      _ ≤ num := two_zpow_log2_le hnum
  · rw [div_lt_iff₀ hpos]
    calc (num : ℚ) < 2 ^ ((num.log2 : ℤ) + 1) := lt_two_zpow_log2 num
      _ = 2 ^ ((num.log2 : ℤ) - den.log2 + 1) * 2 ^ (den.log2 : ℤ) := by
          rw [← zpow_add₀ two_ne_zero]
          ring_nf
      _ ≤ 2 ^ ((num.log2 : ℤ) - den.log2 + 1) * den := by
          gcongr
          exact two_zpow_log2_le hden

theorem two_zpow_magnitude_bounds (hnum : 0 < num) (hden : 0 < den) :
    (2 : ℚ) ^ magnitude num den ≤ num / den ∧ (num / den : ℚ) < 2 ^ (magnitude num den + 1) := by
  obtain ⟨hlow, hhigh⟩ := two_zpow_guess_bounds hnum hden
  by_cases hbelow : num * power 2 (-((num.log2 : ℤ) - den.log2)) <
      den * power 2 ((num.log2 : ℤ) - den.log2)
  · have hmagnitude : magnitude num den = num.log2 - den.log2 - 1 := if_pos hbelow
    rw [hmagnitude, sub_add_cancel]
    exact ⟨hlow, (lt_power_iff hden _).mp hbelow⟩
  · have hmagnitude : magnitude num den = num.log2 - den.log2 := if_neg hbelow
    rw [hmagnitude]
    exact ⟨not_lt.mp fun hlt ↦ hbelow ((lt_power_iff hden _).mpr hlt), hhigh⟩

end Magnitude

/-! ### One rounding -/

/-- The number is the multiple of `2 ^ place` that is nearest to the exact value, where `place` is
that of the last of 53 bits of the exact value, or the last place of all. -/
structure RoundedAt (x : Binary64) (exact : ℚ) (place : ℤ) : Prop where
  unsigned : x.IsUnsigned
  multiple : ∃ k : ℤ, x.value = k * 2 ^ place
  near : |x.value - exact| ≤ 2 ^ place / 2
  least_le : -1074 ≤ place
  exact_lt : exact < 2 ^ (place + 53)
  le_exact : -1074 < place → 2 ^ (place + 52) ≤ exact

theorem value_zero (negative : Bool) : (zero negative).value = 0 := by
  cases negative <;> simp [zero, value]

theorem roundedAt_zero : (zero false).RoundedAt 0 (-1074) where
  unsigned := ⟨0, 0, rfl⟩
  multiple := ⟨0, by rw [value_zero, Int.cast_zero, zero_mul]⟩
  near := by
    rw [value_zero, sub_zero, abs_zero]
    positivity
  least_le := le_rfl
  exact_lt := by positivity
  le_exact := fun hlt ↦ absurd hlt (lt_irrefl _)

section Rounding

variable {num den : ℕ}

/-- The quotient in steps of `2 ^ place`, rounded to a whole number of them. -/
def significandAt (num den : ℕ) (place : ℤ) : ℕ :=
  roundHalfEven (num * power 2 (-place)) (den * power 2 place)

theorem abs_significandAt_sub_le (hden : 0 < den) (place : ℤ) :
    |(significandAt num den place : ℚ) - num / den / 2 ^ place| ≤ 1 / 2 := by
  have hscaled : ((num * power 2 (-place) : ℕ) : ℚ) / ((den * power 2 place : ℕ) : ℚ) =
      num / den / 2 ^ place := by
    have hpos : (den : ℚ) ≠ 0 := Nat.cast_ne_zero.mpr hden.ne'
    have hpower := (cast_power_two_pos (-place)).ne'
    push_cast
    rw [cast_power_two place]
    field_simp
  rw [← hscaled]
  exact abs_roundHalfEven_sub_le _ (Nat.mul_pos hden (power_pos (by decide) place))

/-- A significand of 54 bits is a power of two, and moves up by one place without loss. -/
theorem ofRatio_of_significand (hnum : 0 < num) (hplace : lastPlace num den < 971) :
    (ofRatio false num den).IsUnsigned ∧ (ofRatio false num den).value =
      significandAt num den (lastPlace num den) * 2 ^ lastPlace num den := by
  have hfold : roundHalfEven (num * power 2 (-lastPlace num den))
      (den * power 2 (lastPlace num den)) = significandAt num den (lastPlace num den) := rfl
  rw [ofRatio, if_neg hnum.ne']
  simp only [hfold]
  by_cases hzero : significandAt num den (lastPlace num den) = 0
  · rw [if_pos hzero, hzero, value_zero, Nat.cast_zero, zero_mul]
    exact ⟨⟨0, 0, rfl⟩, rfl⟩
  rw [if_neg hzero]
  by_cases hcarried : significandAt num den (lastPlace num den) = power 2 53
  · rw [if_pos hcarried, if_pos hcarried, if_neg (by omega), hcarried]
    refine ⟨⟨_, _, rfl⟩, ?_⟩
    have hcarry : ((power 2 52 : ℕ) : ℚ) * 2 = (power 2 53 : ℕ) := by
      exact_mod_cast (by decide : power 2 52 * 2 = power 2 53)
    simp only [value, Bool.false_eq_true, if_false]
    rw [zpow_add_one₀ two_ne_zero, ← hcarry]
    ring
  · rw [if_neg hcarried, if_neg hcarried, if_neg (by omega)]
    exact ⟨⟨_, _, rfl⟩, by simp [value]⟩

theorem roundedAt_ofRatio (hnum : 0 < num) (hden : 0 < den) (hplace : lastPlace num den < 971) :
    (ofRatio false num den).RoundedAt (num / den) (lastPlace num den) := by
  obtain ⟨hlow, hhigh⟩ := two_zpow_magnitude_bounds hnum hden
  have hplaces : magnitude num den - 52 ≤ lastPlace num den := le_max_left _ _
  obtain ⟨hunsigned, hvalue⟩ := ofRatio_of_significand hnum hplace
  refine ⟨hunsigned, ⟨_, by rw [hvalue, Int.cast_natCast]⟩, ?near, le_max_right _ _, ?upper,
    ?lower⟩
  case near =>
    have hstep : (0 : ℚ) < 2 ^ lastPlace num den := by positivity
    calc |(ofRatio false num den).value - num / den|
        = |((significandAt num den (lastPlace num den) : ℚ) -
            num / den / 2 ^ lastPlace num den) * 2 ^ lastPlace num den| := by
          rw [hvalue, sub_mul, div_mul_cancel₀ _ hstep.ne']
      _ ≤ 1 / 2 * 2 ^ lastPlace num den := by
          rw [abs_mul, abs_of_pos hstep]
          gcongr
          exact abs_significandAt_sub_le hden _
      _ = 2 ^ lastPlace num den / 2 := by ring
  case upper => exact hhigh.trans_le (zpow_le_zpow_right₀ one_le_two (by omega))
  case lower =>
    intro hlt
    have hmagnitude : lastPlace num den + 52 = magnitude num den := by
      rw [lastPlace] at hlt ⊢
      omega
    rwa [hmagnitude]

theorem exists_roundedAt_ofRatio (hden : 0 < den) (hsize : (num / den : ℚ) < 2 ^ (1023 : ℤ)) :
    ∃ place, (ofRatio false num den).RoundedAt (num / den) place := by
  rcases Nat.eq_zero_or_pos num with rfl | hnum
  · rw [ofRatio, if_pos rfl, Nat.cast_zero, zero_div]
    exact ⟨-1074, roundedAt_zero⟩
  · obtain ⟨hlow, -⟩ := two_zpow_magnitude_bounds hnum hden
    have hmagnitude : magnitude num den < 1023 :=
      (zpow_lt_zpow_iff_right₀ one_lt_two).mp (hlow.trans_lt hsize)
    exact ⟨_, roundedAt_ofRatio hnum hden (by rw [lastPlace]; omega)⟩

theorem exists_roundedAt_mul {x y : Binary64} (hx : x.IsUnsigned) (hy : y.IsUnsigned)
    (hsize : x.value * y.value < 2 ^ (1023 : ℤ)) :
    ∃ place, (x * y).RoundedAt (x.value * y.value) place := by
  obtain ⟨m, e, rfl⟩ := hx
  obtain ⟨n, f, rfl⟩ := hy
  have hpower := (cast_power_two_pos (-(e + f))).ne'
  have hvalue : ((m * n * power 2 (e + f) : ℕ) : ℚ) / (power 2 (-(e + f)) : ℕ) =
      (finite false m e).value * (finite false n f).value := by
    push_cast
    rw [cast_power_two (e + f), zpow_add₀ two_ne_zero]
    simp only [value, Bool.false_eq_true, if_false]
    field_simp
  rw [← hvalue] at hsize ⊢
  exact exists_roundedAt_ofRatio (power_pos (by decide) _) hsize

end Rounding

/-! ### What a rounded number keeps -/

namespace RoundedAt

variable {x : Binary64} {exact : ℚ} {place : ℤ}

/-- Below a power of two there is a last place. -/
theorem place_le (hx : x.RoundedAt exact place) {most : ℤ} (hmost : -1074 ≤ most)
    (hsize : exact < 2 ^ (most + 53)) : place ≤ most := by
  by_contra hlt
  have hle := hx.le_exact (by omega)
  have hexponent : place + 52 < most + 53 :=
    (zpow_lt_zpow_iff_right₀ (one_lt_two : (1 : ℚ) < 2)).mp (hle.trans_lt hsize)
  omega

/-- A multiple of a coarser step is one of the step as well. -/
theorem exists_multiple {coarse : ℤ} (hcoarse : place ≤ coarse) (k : ℤ) :
    ∃ j : ℤ, (k : ℚ) * 2 ^ coarse = j * 2 ^ place := by
  obtain ⟨n, rfl⟩ := Int.le.dest hcoarse
  refine ⟨k * 2 ^ n, ?_⟩
  rw [zpow_add₀ two_ne_zero, zpow_natCast]
  push_cast
  ring

/-- Of two multiples of a step, one that is not a whole step above the other is not above it. -/
theorem multiple_le {i j : ℤ} (hlt : (j : ℚ) * 2 ^ place < i * 2 ^ place + 2 ^ place) :
    (j : ℚ) * 2 ^ place ≤ i * 2 ^ place := by
  have hstep : (0 : ℚ) < 2 ^ place := by positivity
  have hnext : (j : ℚ) * 2 ^ place < ((i + 1 : ℤ) : ℚ) * 2 ^ place := by
    push_cast
    linarith
  have hji : j < i + 1 := by exact_mod_cast lt_of_mul_lt_mul_right hnext hstep.le
  have hcast : (j : ℚ) ≤ i := by exact_mod_cast Int.lt_add_one_iff.mp hji
  gcongr

theorem le_value (hx : x.RoundedAt exact place) {coarse k : ℤ} (hcoarse : place ≤ coarse)
    (hle : (k : ℚ) * 2 ^ coarse ≤ exact) : (k : ℚ) * 2 ^ coarse ≤ x.value := by
  obtain ⟨j, hj⟩ := exists_multiple hcoarse k
  obtain ⟨i, hi⟩ := hx.multiple
  have hstep : (0 : ℚ) < 2 ^ place := by positivity
  have hnear := (abs_le.mp hx.near).1
  rw [hj] at hle ⊢
  rw [hi] at hnear ⊢
  exact multiple_le (by linarith)

theorem value_le (hx : x.RoundedAt exact place) {coarse k : ℤ} (hcoarse : place ≤ coarse)
    (hle : exact ≤ (k : ℚ) * 2 ^ coarse) : x.value ≤ (k : ℚ) * 2 ^ coarse := by
  obtain ⟨j, hj⟩ := exists_multiple hcoarse k
  obtain ⟨i, hi⟩ := hx.multiple
  have hstep : (0 : ℚ) < 2 ^ place := by positivity
  have hnear := (abs_le.mp hx.near).2
  rw [hj] at hle ⊢
  rw [hi] at hnear ⊢
  exact multiple_le (by linarith)

/-- Less than half a step away from the exact value there is no other multiple. -/
theorem value_eq (hx : x.RoundedAt exact place) {coarse k : ℤ} (hcoarse : place ≤ coarse)
    (hnear : |(k : ℚ) * 2 ^ coarse - exact| < 2 ^ place / 2) : x.value = k * 2 ^ coarse := by
  obtain ⟨j, hj⟩ := exists_multiple hcoarse k
  obtain ⟨i, hi⟩ := hx.multiple
  obtain ⟨hbelow, habove⟩ := abs_le.mp hx.near
  obtain ⟨hbelow', habove'⟩ := abs_lt.mp hnear
  rw [hj] at hbelow' habove' ⊢
  rw [hi] at hbelow habove ⊢
  exact le_antisymm (multiple_le (by linarith)) (multiple_le (by linarith))

/-- An exact value that falls short of a multiple by no more than the part `2 ^ -54` of itself is
rounded up to it. -/
theorem le_value_of_short (hx : x.RoundedAt exact place) {coarse k : ℤ} (hcoarse : place ≤ coarse)
    (hshort : (k : ℚ) * 2 ^ coarse ≤ exact * (1 + 1 / 2 ^ 54)) : (k : ℚ) * 2 ^ coarse ≤ x.value := by
  rcases le_or_gt ((k : ℚ) * 2 ^ coarse) exact with hle | hlt
  · exact hx.le_value hcoarse hle
  · have hhalf : exact * (1 / 2 ^ 54) < 2 ^ place / 2 := by
      calc exact * (1 / 2 ^ 54) < 2 ^ (place + 53) * (1 / 2 ^ 54) := by
            gcongr
            exact hx.exact_lt
        _ = 2 ^ place / 2 := by
            rw [zpow_add₀ two_ne_zero]
            norm_num
            ring
    have hnear : |(k : ℚ) * 2 ^ coarse - exact| < 2 ^ place / 2 := by
      rw [abs_of_pos (sub_pos.mpr hlt)]
      linarith
    exact (hx.value_eq hcoarse hnear).ge

end RoundedAt

/-- A count of at most 53 bits is a number. -/
theorem value_ofInt {n : ℕ} (hn : n ≤ 2 ^ 52) :
    (ofInt n).IsUnsigned ∧ (ofInt n).value = n := by
  have hsize : (n : ℚ) ≤ 2 ^ (52 : ℤ) := by exact_mod_cast hn
  have hratio : ofInt n = ofRatio false n 1 := by
    rw [ofInt, Int.natAbs_natCast, decide_eq_false (by omega)]
  have hone : ((n : ℚ) / (1 : ℕ)) = n := by simp
  have hlt : (n / (1 : ℕ) : ℚ) < 2 ^ (1023 : ℤ) := by
    rw [hone]
    exact hsize.trans_lt (zpow_lt_zpow_right₀ one_lt_two (by decide))
  obtain ⟨place, hrounded⟩ := exists_roundedAt_ofRatio Nat.one_pos hlt
  rw [hone, ← hratio] at hrounded
  have hplace : place ≤ 0 := hrounded.place_le (by decide)
    (hsize.trans_lt (zpow_lt_zpow_right₀ one_lt_two (by decide)))
  have heq : (ofInt n).value = (n : ℤ) * 2 ^ (0 : ℤ) := by
    refine hrounded.value_eq hplace ?_
    rw [Int.cast_natCast, zpow_zero, mul_one, sub_self, abs_zero]
    positivity
  exact ⟨hrounded.unsigned, by simpa using heq⟩

end Binary64

end FormulaAudit
