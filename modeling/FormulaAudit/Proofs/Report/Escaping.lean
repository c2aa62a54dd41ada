import FormulaAudit.Report.Preview
import Mathlib.Data.Int.Order.Basic
import Mathlib.Data.List.DropRight

/-!
Escaped formulas and previews. An escaped text never begins with a mark, so the backslash in front
of a mark is always the one that escaping put there, whatever backslashes the formula held before:
taking these away again gives the formula back (`unescape_escapeFormula`). Since a formula is cut
before it is escaped, this holds of previews as well, by every limit (`escaping_reversible`).

The text that a preview shows keeps within its limit if the formula does or the limit leaves room for
the three dots, and in no other case (`shown_withinLimit_iff`): a smaller limit takes away at the
end of the formula what it lacks for the dots, and the text can come out longer than the formula
(`shown_exceeds_limit`).
-/

set_option autoImplicit false

namespace FormulaAudit

variable {α : Type}

/-- A negative limit leaves out items at the end. -/
theorem excerpt_of_neg {limit : ℤ} (hlimit : limit < 0) (items : List α) :
    excerpt limit items = items.rdrop limit.natAbs := by
  rw [excerpt, excerptLength, if_neg (not_le.mpr hlimit), List.rdrop]

namespace Report

/-! ### Backslashes in front of marks -/

/-- Takes away the one backslash directly in front of each mark. -/
def unescapeMarks : List Char → List Char
  | [] => []
  | c :: cs =>
    if c = '\\' ∧ cs.head?.any isMark = true then unescapeMarks cs else c :: unescapeMarks cs

def unescape (text : String) : String := String.ofList (unescapeMarks text.toList)

/-- Puts a backslash in front of each occurrence of one character. -/
def escapeEach (mark : Char) (cs : List Char) : List Char :=
  cs.flatMap fun c ↦ if c = mark then ['\\', c] else [c]

/-- The two marks can be escaped one after the other: the backslashes of the first turn are no marks
to the second. -/
theorem escapeMarks_eq_escapeEach (cs : List Char) :
    escapeMarks cs = escapeEach '|' (escapeEach '\x60' cs) := by
  rw [escapeMarks, escapeEach, escapeEach, List.flatMap_assoc]
  refine List.flatMap_congr fun c _ ↦ ?_
  by_cases htick : c = '\x60'
  · subst htick
    rfl
  · by_cases hpipe : c = '|'
    · subst hpipe
      rfl
    · have hmark : ¬ isMark c = true := by simp [isMark, htick, hpipe]
      simp [hmark, htick, hpipe]

theorem head?_escapeMarks (cs : List Char) : (escapeMarks cs).head?.any isMark = false := by
  cases cs with
  | nil => rfl
  | cons c cs =>
    by_cases hc : isMark c = true
    · rw [escapeMarks_cons_of_isMark hc]
      rfl
    · rw [escapeMarks_cons_of_not_isMark hc]
      exact Bool.not_eq_true _ ▸ hc

theorem unescapeMarks_escapeMarks (cs : List Char) : unescapeMarks (escapeMarks cs) = cs := by
  induction cs with
  | nil => rfl
  | cons c cs ih =>
    by_cases hc : isMark c = true
    · have hback : ¬ (c = '\\' ∧ (escapeMarks cs).head?.any isMark = true) :=
        fun h ↦ ne_backslash_of_isMark hc h.1
      rw [escapeMarks_cons_of_isMark hc, unescapeMarks, if_pos ⟨rfl, hc⟩, unescapeMarks,
        if_neg hback, ih]
    · have hfirst : ¬ (c = '\\' ∧ (escapeMarks cs).head?.any isMark = true) := by
        rw [head?_escapeMarks]
        exact fun h ↦ Bool.false_ne_true h.2
      rw [escapeMarks_cons_of_not_isMark hc, unescapeMarks, if_neg hfirst, ih]

theorem unescape_escapeFormula (formula : String) : unescape (escapeFormula formula) = formula := by
  rw [unescape, escapeFormula, String.toList_ofList, unescapeMarks_escapeMarks,
    String.ofList_toList]

theorem escapeFormula_injective : Function.Injective escapeFormula :=
  Function.LeftInverse.injective unescape_escapeFormula

/-! ### Previews -/

/-- The text that a preview shows, before it is escaped. -/
def shown (limit : ℤ) (formula : String) : String := String.ofList (cut limit formula.toList)

theorem preview_eq (limit : ℤ) (formula : String) :
    preview limit formula = escapeFormula (shown limit formula) := by
  rw [preview, escapeFormula, shown, String.toList_ofList]

theorem shown_of_fits {limit : ℤ} {formula : String} (hfits : formula.length ≤ limit) :
    shown limit formula = formula := by
  rw [shown, cut, String.length_toList, if_neg (not_lt.mpr hfits), String.ofList_toList]

theorem shown_of_cut {limit : ℤ} {formula : String} (hcut : limit < formula.length) :
    shown limit formula = String.ofList (excerpt (limit - 3) formula.toList) ++ "..." := by
  rw [shown, cut, String.length_toList, if_pos hcut, String.ofList_append]

/-- The formula if it fits, or what the limit less three leaves of it and three dots. A limit below
three leaves out characters at the end. -/
theorem shown_eq (limit : ℤ) (formula : String) :
    shown limit formula =
      if formula.length ≤ limit then formula
      else if 3 ≤ limit then String.ofList (formula.toList.take (limit - 3).toNat) ++ "..."
      else String.ofList (formula.toList.rdrop (3 - limit).toNat) ++ "..." := by
  by_cases hfits : formula.length ≤ limit
  · rw [if_pos hfits, shown_of_fits hfits]
  · rw [if_neg hfits, shown_of_cut (not_le.mp hfits)]
    by_cases hroom : 3 ≤ limit
    · rw [if_pos hroom, excerpt_of_nonneg (by omega)]
    · have hmissing : (limit - 3).natAbs = (3 - limit).toNat := by omega
      rw [if_neg hroom, excerpt_of_neg (by omega), hmissing]

theorem length_shown (limit : ℤ) (formula : String) :
    ((shown limit formula).length : ℤ) =
      if formula.length ≤ limit then (formula.length : ℤ)
      else if 3 ≤ limit then limit
      else max 3 (formula.length + limit) := by
  by_cases hfits : formula.length ≤ limit
  · rw [if_pos hfits, shown_of_fits hfits]
  · have hdots : "...".length = 3 := by decide
    rw [if_neg hfits, shown_of_cut (not_le.mp hfits), String.length_append, String.length_ofList,
      length_excerpt, excerptLength, String.length_toList, hdots]
    split <;> split <;> omega

/-- Escaping can be undone, so different formulas are escaped differently: the one backslash
directly in front of each mark is taken away. A preview is never cut between a mark and its
backslash. It shows the formula if that fits, and otherwise what the limit less three leaves of it,
and three dots. -/
theorem escaping_reversible :
    Function.Injective escapeFormula ∧ ∀ formula,
      escapeFormula formula = String.ofList (escapeEach '|' (escapeEach '\x60' formula.toList)) ∧
      unescape (escapeFormula formula) = formula ∧
      ∀ limit : ℤ, unescape (preview limit formula) =
        if formula.length ≤ limit then formula
        else if 3 ≤ limit then String.ofList (formula.toList.take (limit - 3).toNat) ++ "..."
        else String.ofList (formula.toList.rdrop (3 - limit).toNat) ++ "..." := by
  refine ⟨escapeFormula_injective, fun formula ↦ ⟨?_, unescape_escapeFormula formula, ?_⟩⟩
  · rw [escapeFormula, escapeMarks_eq_escapeEach]
  · intro limit
    rw [preview_eq, unescape_escapeFormula, shown_eq]

/-- A pipe that has a backslash in front of it already gets another one. -/
example : escapeFormula "A\\|`" = "A\\\\|\\`" ∧ unescape "A\\\\|\\`" = "A\\|`" := by decide

/-- A preview is the escaped form of one text only. That text is the formula if it fits, and it
keeps within the limit exactly if the formula fits or the limit is three at least; below that it has
three characters or more, and the fewer of the formula the smaller the limit. -/
theorem shown_withinLimit_iff (limit : ℤ) (formula : String) :
    (∀ text, escapeFormula text = preview limit formula ↔ text = shown limit formula) ∧
      (formula.length ≤ limit → shown limit formula = formula) ∧
      ((shown limit formula).length : ℤ) =
        (if formula.length ≤ limit then (formula.length : ℤ)
        else if 3 ≤ limit then limit
        else max 3 (formula.length + limit)) ∧
      ((shown limit formula).length ≤ limit ↔ formula.length ≤ limit ∨ 3 ≤ limit) := by
  refine ⟨fun text ↦ ?_, shown_of_fits, length_shown limit formula, ?_⟩
  · rw [preview_eq, escapeFormula_injective.eq_iff]
  · rw [length_shown]
    by_cases hfits : formula.length ≤ limit
    · rw [if_pos hfits]
      exact iff_of_true hfits (Or.inl hfits)
    · rw [if_neg hfits, or_iff_right hfits]
      split <;> omega

/-- Ten characters by a limit of eight, and eight. -/
theorem shown_withinLimit_iff_eight :
    shown 8 "AAAAAAAAAA" = "AAAAA..." ∧ (shown 8 "AAAAAAAAAA").length = 8 ∧
      ("AAAAAAAA".length : ℤ) ≤ 8 ∧ shown 8 "AAAAAAAA" = "AAAAAAAA" := by
  obtain ⟨-, -, hlength, -⟩ := shown_withinLimit_iff 8 "AAAAAAAAAA"
  obtain ⟨-, hfits, -, -⟩ := shown_withinLimit_iff 8 "AAAAAAAA"
  have hfilled : ((shown 8 "AAAAAAAAAA").length : ℤ) = 8 := hlength.trans (by decide)
  have hlimit : ("AAAAAAAA".length : ℤ) ≤ 8 := by decide
  exact ⟨by decide, by exact_mod_cast hfilled, hlimit, hfits hlimit⟩

/-- By a limit of zero three dots are shown where nothing may be. By a limit of three nothing but the
dots is shown, and by a limit of two a text that is longer than the formula. -/
theorem shown_exceeds_limit :
    preview 0 "A1" = "..." ∧ shown 0 "A1" = "..." ∧
      preview 2 "SUM(A1:A9)" = "SUM(A1:A9..." ∧ shown 2 "SUM(A1:A9)" = "SUM(A1:A9..." ∧
      preview 3 "SUM(A1:A9)" = "..." ∧
      ¬ (∀ (limit : ℤ) (formula : String), 0 ≤ limit → (shown limit formula).length ≤ limit) := by
  refine ⟨by decide, by decide, by decide, by decide, by decide, fun hclaim ↦ ?_⟩
  exact absurd (hclaim 0 "A1" le_rfl) (by decide)

end Report

end FormulaAudit
