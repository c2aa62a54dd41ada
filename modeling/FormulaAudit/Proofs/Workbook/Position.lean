import FormulaAudit.Workbook.Position
import Mathlib

/-!
Texts of positions. The letters of a column are its number written with 26 digits of which none is
zero, and the number is read back from them (`columnNumber_columnLetters`); so is the whole position
from its text (`read?_toText`), whatever the number of letters. A position that is read from any text
has a column, in which case its own text names it too.
-/

set_option autoImplicit false

namespace FormulaAudit.Position

/-- The letter of a place in the alphabet, counted from zero. -/
theorem letter_of_lt {d : ℕ} (hd : d < 26) :
    (Char.ofNat (65 + d)).isAlpha = true ∧ (Char.ofNat (65 + d)).toUpper.toNat - 64 = d + 1 := by
  revert d
  decide

theorem columnNumber_concat (letters : List Char) (c : Char) :
    columnNumber (letters ++ [c]) = 26 * columnNumber letters + (c.toUpper.toNat - 64) := by
  rw [columnNumber, List.foldl_append]
  rfl

theorem columnNumber_columnLetters (n : ℕ) : columnNumber (columnLetters n) = n := by
  induction n using columnLetters.induct with
  | case1 =>
    rw [columnLetters]
    rfl
  | case2 n ih =>
    rw [columnLetters, columnNumber_concat, ih, (letter_of_lt (Nat.mod_lt n (by decide))).2]
    omega

theorem isAlpha_of_mem_columnLetters {n : ℕ} {c : Char} (hc : c ∈ columnLetters n) :
    c.isAlpha = true := by
  induction n using columnLetters.induct with
  | case1 =>
    rw [columnLetters] at hc
    cases hc
  | case2 n ih =>
    rw [columnLetters, List.mem_append, List.mem_singleton] at hc
    rcases hc with hfront | rfl
    · exact ih hfront
    · exact (letter_of_lt (Nat.mod_lt n (by decide))).1

theorem columnLetters_ne_nil {n : ℕ} (hn : n ≠ 0) : columnLetters n ≠ [] := by
  cases n with
  | zero => exact absurd rfl hn
  | succ n =>
    rw [columnLetters]
    exact List.append_ne_nil_of_right_ne_nil _ (List.cons_ne_nil _ _)

theorem isAlpha_eq_false_of_isDigit {c : Char} (hc : c.isDigit = true) : c.isAlpha = false := by
  have hbounds : 48 ≤ c.val.toNat ∧ c.val.toNat ≤ 57 := by
    simpa [Char.isDigit, UInt32.le_iff_toNat_le] using hc
  have hupper : 'A'.val.toNat = 65 := rfl
  have hlower : 'a'.val.toNat = 97 := rfl
  simp only [Char.isAlpha, Char.isUpper, Char.isLower, Bool.or_eq_false_iff, Bool.and_eq_false_iff,
    decide_eq_false_iff_not, ge_iff_le, UInt32.le_iff_toNat_le]
  omega

/-- The letters end where the digits begin. -/
theorem takeWhile_isAlpha_append {letters digits : List Char}
    (hletters : ∀ c ∈ letters, c.isAlpha = true) (hdigits : ∀ c ∈ digits, c.isDigit = true) :
    (letters ++ digits).takeWhile Char.isAlpha = letters := by
  have hnone : digits.takeWhile Char.isAlpha = [] := by
    cases digits with
    | nil => rfl
    | cons c digits =>
      rw [List.takeWhile_cons, isAlpha_eq_false_of_isDigit (hdigits c List.mem_cons_self)]
      rfl
  rw [List.takeWhile_append_of_pos hletters, hnone, List.append_nil]

/-- A position is read back from its text. -/
theorem read?_toText {p : Position} (hcolumn : p.column ≠ 0) : read? p.toText = some p := by
  have hdigits : ∀ c ∈ Nat.toDigits 10 p.row, c.isDigit = true := fun c hc ↦
    Nat.isDigit_of_mem_toDigits (by decide) (by decide) hc
  have hletters : (columnLetters p.column ++ Nat.toDigits 10 p.row).takeWhile Char.isAlpha =
      columnLetters p.column :=
    takeWhile_isAlpha_append (fun c hc ↦ isAlpha_of_mem_columnLetters hc) hdigits
  have hrow : (Nat.toDigits 10 p.row).foldl (fun n c ↦ 10 * n + (c.toNat - 48)) 0 = p.row :=
    Nat.ofDigitChars_ten_toDigits
  have hempty : ((columnLetters p.column).isEmpty || (Nat.toDigits 10 p.row).isEmpty ||
      !(Nat.toDigits 10 p.row).all Char.isDigit) = false := by
    simpa [columnLetters_ne_nil hcolumn, Nat.toDigits_ne_nil] using hdigits
  rw [read?, toText, String.toList_ofList, hletters, List.drop_left]
  simp only [hempty, hrow, columnNumber_columnLetters]
  rfl

theorem lt_toNat_toUpper {c : Char} (hc : c.isAlpha = true) : 64 < c.toUpper.toNat := by
  have hupper : c.toUpper.isUpper = true := by rw [Char.isUpper_toUpper_eq_isAlpha, hc]
  exact UInt32.le_iff_toNat_le.mp (of_decide_eq_true hupper).1

theorem columnNumber_ne_zero {letters : List Char} (hne : letters ≠ [])
    (hletters : ∀ c ∈ letters, c.isAlpha = true) : columnNumber letters ≠ 0 := by
  rcases letters.eq_nil_or_concat' with rfl | ⟨front, c, rfl⟩
  · exact absurd rfl hne
  · have hc := lt_toNat_toUpper (hletters c (by simp))
    rw [columnNumber_concat]
    omega

/-- The first column has the number one. -/
theorem column_ne_zero_of_read? {text : String} {p : Position} (hread : read? text = some p) :
    p.column ≠ 0 := by
  simp only [read?, Option.ite_none_left_eq_some, Bool.not_eq_true, Bool.or_eq_false_iff] at hread
  obtain ⟨⟨⟨hempty, -⟩, -⟩, hp⟩ := hread
  rw [← Option.some.inj hp]
  refine columnNumber_ne_zero (List.isEmpty_eq_false_iff.mp hempty) fun c hc ↦ ?_
  exact List.mem_takeWhile_imp hc

end FormulaAudit.Position
