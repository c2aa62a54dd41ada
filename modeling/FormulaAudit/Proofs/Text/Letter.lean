import FormulaAudit.Text.LetterCase
import Mathlib

/-!
Letters in any case. The variants that caseless matching accepts for an ASCII character are the
character in either case and, for three of the letters, the signs outside ASCII that count as the
same letter (`mem_caselessVariants_iff`).
-/

set_option autoImplicit false

namespace FormulaAudit.Text

/-- The first character stands for the second, which is ASCII, in a text that is read without regard
to case. -/
def SameLetter (c d : Char) : Prop :=
  c.toLower = d.toLower ∨ (d.toLower = 'i' ∧ (c = '\u0130' ∨ c = '\u0131')) ∨
    (d.toLower = 's' ∧ c = '\u017F') ∨ (d.toLower = 'k' ∧ c = '\u212A')

theorem toLower_eq_toLower_iff {c d : Char} :
    c.toLower = d.toLower ↔ c = d.toLower ∨ c = d.toUpper := by
  constructor
  · intro hsame
    by_cases hupper : c.isUpper = true
    · right
      calc c = c.toUpper :=
            (Char.toUpper_eq_of_not_isLower (Char.not_isLower_of_isUpper hupper)).symm
        _ = c.toLower.toUpper := (Char.toUpper_toLower_eq_toUpper c).symm
        _ = d.toLower.toUpper := by rw [hsame]
        _ = d.toUpper := Char.toUpper_toLower_eq_toUpper d
    · left
      rw [← hsame, Char.toLower_eq_of_not_isUpper hupper]
  · rintro (rfl | rfl)
    · exact Char.toLower_toLower_eq_toLower d
    · exact Char.toLower_toUpper_eq_toLower d

/-- What is no letter has no other case. -/
theorem toLower_eq_self_of_not_isAlpha {d : Char} (hd : d.isAlpha = false) :
    d.toLower = d ∧ d.toUpper = d := by
  obtain ⟨hupper, hlower⟩ : d.isUpper = false ∧ d.isLower = false := by
    simpa [Char.isAlpha] using hd
  exact ⟨Char.toLower_eq_of_not_isUpper (by simp [hupper]),
    Char.toUpper_eq_of_not_isLower (by simp [hlower])⟩

theorem mem_caselessVariants_iff {c d : Char} (hd : d.toNat < 128) :
    c ∈ caselessVariants d ↔ SameLetter c d := by
  rw [SameLetter, toLower_eq_toLower_iff, caselessVariants, if_pos hd]
  cases halpha : d.isAlpha with
  | false =>
    obtain ⟨hlower, hupper⟩ := toLower_eq_self_of_not_isAlpha halpha
    have hletter {e : Char} (he : e.isAlpha = true) : d ≠ e := by
      rintro rfl
      rw [halpha] at he
      cases he
    have hi : d ≠ 'i' := hletter (by decide)
    have hs : d ≠ 's' := hletter (by decide)
    have hk : d ≠ 'k' := hletter (by decide)
    simp [hlower, hupper, hi, hs, hk]
  | true =>
    simp only [if_true, List.mem_cons]
    split
    case h_1 h => simp [h, or_assoc]
    case h_2 h => simp [h, or_assoc]
    case h_3 h => simp [h, or_assoc]
    case h_4 hi hs hk =>
      simp only [eq_false hi, eq_false hs, eq_false hk, false_and, or_false, List.not_mem_nil]

end FormulaAudit.Text
