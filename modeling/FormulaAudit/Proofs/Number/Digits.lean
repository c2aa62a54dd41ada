import FormulaAudit.Number.FixedPlaces
import Mathlib.Data.Nat.Digits.Defs

/-!
The characters that numbers are written with: digits, a point, a minus sign, and the letters of the
binary numbers that have no digits. So no text of a number holds a mark that stands for something
else in the reports.
-/

set_option autoImplicit false

namespace FormulaAudit

variable {c : Char}

/-- A character that numbers are written with. -/
def IsNumberCharacter (c : Char) : Prop :=
  c.isDigit = true ∨ c ∈ ['.', '-', 'i', 'n', 'f', 'a']

instance : DecidablePred IsNumberCharacter := fun c ↦
  inferInstanceAs (Decidable (c.isDigit = true ∨ c ∈ ['.', '-', 'i', 'n', 'f', 'a']))

theorem isNumberCharacter_of_mem_toDigits {n : ℕ} (hc : c ∈ Nat.toDigits 10 n) :
    IsNumberCharacter c := Or.inl (Nat.isDigit_of_mem_toDigits (by decide) (by decide) hc)

theorem isNumberCharacter_of_mem_toString {n : ℕ} (hc : c ∈ (toString n).toList) :
    IsNumberCharacter c := by
  have hdigits : (toString n).toList = Nat.toDigits 10 n := String.toList_ofList
  exact isNumberCharacter_of_mem_toDigits (hdigits ▸ hc)

theorem isNumberCharacter_of_mem_toString_int {n : ℤ} (hc : c ∈ (toString n).toList) :
    IsNumberCharacter c := by
  cases n with
  | ofNat n => exact isNumberCharacter_of_mem_toString hc
  | negSucc n =>
    have hsigned : (toString (Int.negSucc n)).toList = "-".toList ++ (toString (n + 1)).toList :=
      String.toList_append
    rw [hsigned, List.mem_append] at hc
    rcases hc with hsign | hdigits
    · exact Or.inr (by rw [List.mem_singleton.mp hsign]; decide)
    · exact isNumberCharacter_of_mem_toString hdigits

theorem isNumberCharacter_of_mem_placeDigits {places number : ℕ}
    (hc : c ∈ placeDigits places number) : IsNumberCharacter c := by
  have hdigit {d : Char} (hd : d ∈ List.replicate (places + 1 - (Nat.toDigits 10 number).length) '0'
      ++ Nat.toDigits 10 number) : IsNumberCharacter d := by
    rcases List.mem_append.mp hd with hzero | hdigits
    · rw [(List.mem_replicate.mp hzero).2]
      exact Or.inl rfl
    · exact isNumberCharacter_of_mem_toDigits hdigits
  unfold placeDigits at hc
  by_cases hplaces : places = 0
  · exact hdigit (by simpa [hplaces] using hc)
  · simp only [hplaces, if_false, List.mem_append, List.mem_cons] at hc
    rcases hc with hwhole | rfl | hpart
    · exact hdigit (List.mem_of_mem_take hwhole)
    · exact Or.inr (by decide)
    · exact hdigit (List.mem_of_mem_drop hpart)

theorem Binary64.isNumberCharacter_of_mem_fixedPlaces {places : ℕ} {x : Binary64}
    (hc : c ∈ (x.fixedPlaces places).toList) : IsNumberCharacter c := by
  -- The check is of the letters of one text, not of all characters that there are.
  have hword {text : String} (htext : text.toList.all (fun d ↦ decide (IsNumberCharacter d)) = true)
      (hc : c ∈ text.toList) : IsNumberCharacter c :=
    of_decide_eq_true (List.all_eq_true.mp htext c hc)
  cases x with
  | nan => exact hword (by decide) (show c ∈ "nan".toList from hc)
  | infinite negative =>
    cases negative with
    | false => exact hword (by decide) (show c ∈ "inf".toList from hc)
    | true => exact hword (by decide) (show c ∈ "-inf".toList from hc)
  | finite negative significand exponent =>
    rw [fixedPlaces, String.toList_ofList, List.mem_append] at hc
    rcases hc with hsign | hdigits
    · cases negative with
      | false => cases hsign
      | true =>
        rw [List.mem_singleton.mp hsign]
        exact Or.inr (by decide)
    · exact isNumberCharacter_of_mem_placeDigits hdigits

end FormulaAudit
