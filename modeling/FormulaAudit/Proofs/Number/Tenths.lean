import FormulaAudit.MigrationPlan
import FormulaAudit.Proofs.Number.Binary64
import Mathlib.Algebra.Order.Floor.Div
import Mathlib.Algebra.Order.Floor.Semiring

/-!
Tenths of a count in binary floating point. A share of so many tenths is off by less than `2 ^ -54`,
and its product with a count is rounded once more. Up to a count of `2 ^ 40` both errors together
are too small to reach a whole number from the nearest tenth, so rounding down or up afterwards goes
wrong only if a product that should be whole is not. Rounding up needs a share that is not above
what it stands for (`tenthsAbove_eq`); rounding down allows one that is below by at most the part
`2 ^ -54` of itself, as the product then comes back to the whole number (`tenthsBelow_eq`). A whole
number exceeds a product exactly if it exceeds the product rounded down, so thresholds need no error
analysis of their own (`exceedsTenths_iff_tenthsBelow_lt`).
-/

set_option autoImplicit false

namespace FormulaAudit

open Binary64

variable {count tenths : ℕ}

theorem unsigned_ofTenths (htenths : tenths < 10) : (ofTenths tenths).IsUnsigned ∧
    |(ofTenths tenths).value - tenths / 10| ≤ 1 / 2 ^ 54 := by
  have hcast : (tenths : ℚ) < 10 := by exact_mod_cast htenths
  have hsize : (tenths / (10 : ℕ) : ℚ) < 1 := by
    rw [div_lt_one (by norm_num)]
    exact_mod_cast htenths
  obtain ⟨place, hrounded⟩ : ∃ place, (ofTenths tenths).RoundedAt (tenths / (10 : ℕ)) place :=
    exists_roundedAt_ofRatio (by decide) (hsize.trans (one_lt_zpow₀ one_lt_two (by decide)))
  have hplace : place ≤ -53 := hrounded.place_le (by decide) hsize
  refine ⟨hrounded.unsigned, ?_⟩
  calc |(ofTenths tenths).value - tenths / 10| ≤ 2 ^ place / 2 := by exact_mod_cast hrounded.near
    _ ≤ 2 ^ (-53 : ℤ) / 2 := by
        gcongr
        exact one_le_two
    _ = 1 / 2 ^ 54 := by norm_num

/-- The exact product of a count and a share is close to the tenths of the count. -/
theorem abs_count_mul_sub_le (hcount : count ≤ 2 ^ 40) (htenths : tenths < 10) :
    |count * (ofTenths tenths).value - tenths * count / 10| ≤ 1 / 2 ^ 14 := by
  have hcast : (count : ℚ) ≤ 2 ^ 40 := by exact_mod_cast hcount
  calc |count * (ofTenths tenths).value - tenths * count / 10|
      = count * |(ofTenths tenths).value - tenths / 10| := by
        rw [← abs_of_nonneg (Nat.cast_nonneg' count : (0 : ℚ) ≤ count), ← abs_mul,
          abs_of_nonneg (Nat.cast_nonneg' count : (0 : ℚ) ≤ count)]
        congr 1
        ring
    _ ≤ 2 ^ 40 * (1 / 2 ^ 54) := by
        gcongr
        exact (unsigned_ofTenths htenths).2
    _ = 1 / 2 ^ 14 := by norm_num

theorem exists_roundedAt_count_mul (hcount : count ≤ 2 ^ 40) (htenths : tenths < 10) :
    ∃ place ≤ (-13 : ℤ), (ofInt count * ofTenths tenths).RoundedAt
      (count * (ofTenths tenths).value) place := by
  have hcast : (count : ℚ) ≤ 2 ^ 40 := by exact_mod_cast hcount
  have hmost : (tenths : ℚ) ≤ 9 := by exact_mod_cast Nat.le_of_lt_succ htenths
  obtain ⟨hcountUnsigned, hcountValue⟩ := value_ofInt (hcount.trans (by decide))
  obtain ⟨hshareUnsigned, hshare⟩ := unsigned_ofTenths htenths
  have hsmall : (1 / 2 ^ 54 : ℚ) < 1 / 10 := by norm_num
  have hbelow : (ofTenths tenths).value < 1 := by linarith [(abs_le.mp hshare).2]
  have hsize : count * (ofTenths tenths).value < 2 ^ (40 : ℤ) := by
    calc (count : ℚ) * (ofTenths tenths).value ≤ 2 ^ 40 * (ofTenths tenths).value := by
          gcongr
          exact hshareUnsigned.value_nonneg
      _ < 2 ^ 40 * 1 := by gcongr
      _ = 2 ^ (40 : ℤ) := by norm_num
  rw [← hcountValue] at hsize
  obtain ⟨place, hrounded⟩ := exists_roundedAt_mul hcountUnsigned hshareUnsigned
    (hsize.trans (zpow_lt_zpow_right₀ one_lt_two (by decide)))
  exact ⟨place, hrounded.place_le (by decide) hsize, hcountValue ▸ hrounded⟩

section Whole

variable {x : Binary64} {exact : ℚ} {place : ℤ} {whole : ℕ}

theorem floor_value_eq (hx : x.RoundedAt exact place) (hplace : place ≤ -13)
    (hlow : (whole : ℚ) ≤ exact * (1 + 1 / 2 ^ 54)) (hhigh : exact ≤ whole + 15 / 16) :
    ⌊x.value⌋ = whole := by
  have hreached : ((whole : ℤ) : ℚ) * 2 ^ (0 : ℤ) ≤ x.value :=
    hx.le_value_of_short (hplace.trans (by decide)) (by simpa using hlow)
  have hsixteenths : ((16 * whole + 15 : ℤ) : ℚ) * 2 ^ (-4 : ℤ) = whole + 15 / 16 := by
    push_cast
    norm_num
    ring
  have hkept : x.value ≤ ((16 * whole + 15 : ℤ) : ℚ) * 2 ^ (-4 : ℤ) :=
    hx.value_le (hplace.trans (by decide)) (hhigh.trans_eq hsixteenths.symm)
  rw [hsixteenths] at hkept
  rw [zpow_zero, mul_one] at hreached
  rw [Int.floor_eq_iff]
  refine ⟨hreached, ?_⟩
  rw [Int.cast_natCast]
  linarith

theorem ceil_value_eq (hx : x.RoundedAt exact place) (hplace : place ≤ -13)
    (hhigh : exact ≤ whole) (hlow : (whole : ℚ) - 15 / 16 ≤ exact) : ⌈x.value⌉ = whole := by
  have hkept : x.value ≤ ((whole : ℤ) : ℚ) * 2 ^ (0 : ℤ) :=
    hx.value_le (hplace.trans (by decide)) (by simpa using hhigh)
  have hsixteenths : ((16 * whole - 15 : ℤ) : ℚ) * 2 ^ (-4 : ℤ) = whole - 15 / 16 := by
    push_cast
    norm_num
    ring
  have hreached : ((16 * whole - 15 : ℤ) : ℚ) * 2 ^ (-4 : ℤ) ≤ x.value :=
    hx.le_value (hplace.trans (by decide)) (hsixteenths.trans_le hlow)
  rw [hsixteenths] at hreached
  rw [zpow_zero, mul_one] at hkept
  rw [Int.ceil_eq_iff]
  refine ⟨?_, hkept⟩
  rw [Int.cast_natCast]
  linarith

end Whole

/-- A share that falls short by no more than the part `2 ^ -54` of itself keeps whole products. -/
theorem tenthsBelow_eq (hcount : count ≤ 2 ^ 40) (htenths : tenths < 10)
    (hshare : (tenths / 10 : ℚ) ≤ (ofTenths tenths).value * (1 + 1 / 2 ^ 54)) :
    tenthsBelow count tenths = tenths * count / 10 := by
  obtain ⟨place, hplace, hrounded⟩ := exists_roundedAt_count_mul hcount htenths
  have herror := (abs_le.mp (abs_count_mul_sub_le hcount htenths)).2
  have hshort := mul_le_mul_of_nonneg_left hshare (Nat.cast_nonneg' count : (0 : ℚ) ≤ count)
  have hwhole_le : (10 * (tenths * count / 10 : ℕ) : ℚ) ≤ tenths * count := by
    exact_mod_cast Nat.mul_div_le _ _
  have hle_whole : (tenths * count : ℚ) ≤ 10 * (tenths * count / 10 : ℕ) + 9 := by
    exact_mod_cast (by omega : tenths * count ≤ 10 * (tenths * count / 10) + 9)
  have hfloor : ⌊(ofInt count * ofTenths tenths).value⌋ = (tenths * count / 10 : ℕ) :=
    floor_value_eq hrounded hplace (by linarith) (by linarith)
  rw [tenthsBelow, hrounded.unsigned.floor?_eq, hfloor]
  rfl

/-- A share that is not above what it stands for keeps whole products from being exceeded. -/
theorem tenthsAbove_eq (hcount : count ≤ 2 ^ 40) (htenths : tenths < 10)
    (hshare : (ofTenths tenths).value ≤ tenths / 10) :
    tenthsAbove count tenths = (tenths * count) ⌈/⌉ 10 := by
  obtain ⟨place, hplace, hrounded⟩ := exists_roundedAt_count_mul hcount htenths
  have herror := (abs_le.mp (abs_count_mul_sub_le hcount htenths)).1
  have hbound := mul_le_mul_of_nonneg_left hshare (Nat.cast_nonneg' count : (0 : ℚ) ≤ count)
  have hceil : (tenths * count) ⌈/⌉ 10 = (tenths * count + 9) / 10 := rfl
  have hle_whole : (tenths * count : ℚ) ≤ 10 * ((tenths * count) ⌈/⌉ 10 : ℕ) := by
    exact_mod_cast (by omega : tenths * count ≤ 10 * ((tenths * count) ⌈/⌉ 10))
  have hwhole_le : (10 * ((tenths * count) ⌈/⌉ 10 : ℕ) : ℚ) ≤ tenths * count + 9 := by
    exact_mod_cast (by omega : 10 * ((tenths * count) ⌈/⌉ 10) ≤ tenths * count + 9)
  have hceiling : ⌈(ofInt count * ofTenths tenths).value⌉ = ((tenths * count) ⌈/⌉ 10 : ℕ) :=
    ceil_value_eq hrounded hplace (by linarith) (by linarith)
  rw [tenthsAbove, hrounded.unsigned.ceil?_eq, hceiling]
  rfl

/-- A count exceeds so many tenths of a total exactly if it exceeds them rounded down. -/
theorem exceedsTenths_iff_tenthsBelow_lt {total : ℕ} (htotal : total ≤ 2 ^ 40)
    (htenths : tenths < 10) :
    exceedsTenths count total tenths = true ↔ tenthsBelow total tenths < count := by
  obtain ⟨place, -, hrounded⟩ := exists_roundedAt_count_mul htotal htenths
  have hfloor : 0 ≤ ⌊(ofInt total * ofTenths tenths).value⌋ :=
    Int.floor_nonneg.mpr hrounded.unsigned.value_nonneg
  rw [exceedsTenths, hrounded.unsigned.isBelow_iff, tenthsBelow, hrounded.unsigned.floor?_eq,
    Option.getD_some, Int.toNat_lt hfloor, Int.floor_lt]

/-! ### The shares in use

Two and four tenths come out a little large and three tenths a little small; six and seven tenths
come out small. -/

theorem ofTenths_two : ofTenths 2 = finite false 7205759403792794 (-55) := by decide +kernel

theorem ofTenths_three : ofTenths 3 = finite false 5404319552844595 (-54) := by decide +kernel

theorem ofTenths_four : ofTenths 4 = finite false 7205759403792794 (-54) := by decide +kernel

theorem ofTenths_six : ofTenths 6 = finite false 5404319552844595 (-53) := by decide +kernel

theorem ofTenths_seven : ofTenths 7 = finite false 6305039478318694 (-53) := by decide +kernel

theorem tenthsBelow_two (hcount : count ≤ 2 ^ 40) : tenthsBelow count 2 = count / 5 := by
  have heq : tenthsBelow count 2 = 2 * count / 10 := tenthsBelow_eq hcount (by decide) (by
    rw [ofTenths_two]
    norm_num [value])
  omega

theorem tenthsBelow_three (hcount : count ≤ 2 ^ 40) : tenthsBelow count 3 = 3 * count / 10 :=
  tenthsBelow_eq hcount (by decide) (by
    rw [ofTenths_three]
    norm_num [value])

theorem tenthsBelow_four (hcount : count ≤ 2 ^ 40) : tenthsBelow count 4 = 2 * count / 5 := by
  have heq : tenthsBelow count 4 = 4 * count / 10 := tenthsBelow_eq hcount (by decide) (by
    rw [ofTenths_four]
    norm_num [value])
  omega

theorem tenthsAbove_six (hcount : count ≤ 2 ^ 40) : tenthsAbove count 6 = (3 * count) ⌈/⌉ 5 := by
  have heq : tenthsAbove count 6 = (6 * count) ⌈/⌉ 10 := tenthsAbove_eq hcount (by decide) (by
    rw [ofTenths_six]
    norm_num [value])
  rw [Nat.ceilDiv_eq_add_pred_div] at heq ⊢
  omega

theorem tenthsAbove_seven (hcount : count ≤ 2 ^ 40) : tenthsAbove count 7 = (7 * count) ⌈/⌉ 10 :=
  tenthsAbove_eq hcount (by decide) (by
    rw [ofTenths_seven]
    norm_num [value])

theorem exceedsTenths_two {total : ℕ} (htotal : total ≤ 2 ^ 40) :
    exceedsTenths count total 2 = true ↔ total < 5 * count := by
  rw [exceedsTenths_iff_tenthsBelow_lt htotal (by decide), tenthsBelow_two htotal]
  omega

theorem exceedsTenths_four {total : ℕ} (htotal : total ≤ 2 ^ 40) :
    exceedsTenths count total 4 = true ↔ 2 * total < 5 * count := by
  rw [exceedsTenths_iff_tenthsBelow_lt htotal (by decide), tenthsBelow_four htotal]
  omega

end FormulaAudit
