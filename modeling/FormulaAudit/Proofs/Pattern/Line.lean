import FormulaAudit.Proofs.Pattern.Language
import FormulaAudit.RuleBook.Standard
import Mathlib.Data.List.DropRight

/-!
Patterns within a line. A line of a text is a part without line feeds that no such part goes
beyond. A pattern whose stretches hold no line feed is found in a text exactly if it is found in one
of its lines (`occursIn_iff_line`). There a gap is no condition at all, so parts that follow each
other with gaps in between are parts that stand in the line one after the other, without overlap
(`occursIn_inOrder`).
-/

set_option autoImplicit false

namespace FormulaAudit

/-- A part of the text without line feeds, between line feeds or the ends of the text. -/
def IsLine (line text : List Char) : Prop :=
  '\n' ∉ line ∧ ∃ before after, text = before ++ (line ++ after) ∧
    (∀ c ∈ before.getLast?, c = '\n') ∧ ∀ c ∈ after.head?, c = '\n'

/-- The text holds a word of each language, one after the other and without overlap. -/
def HoldsInOrder : List (Language Char) → List Char → Prop
  | [], _ => True
  | first :: more, text => ∃ gap part rest, text = gap ++ (part ++ rest) ∧ part ∈ first ∧
      HoldsInOrder more rest

section Lines

variable {line text w : List Char}

/-- A text without line feeds is its only line. -/
theorem isLine_self (htext : '\n' ∉ text) : IsLine text text :=
  ⟨htext, [], [], by simp, by simp, by simp⟩

theorem IsLine.isInfix (hline : IsLine line text) : line <:+: text := by
  obtain ⟨_, before, after, rfl, _, _⟩ := hline
  exact ⟨before, after, by rw [List.append_assoc]⟩

/-- Every part without line feeds lies within a line: the one that goes from the last line feed in
front of it to the first one behind it. -/
theorem exists_line_of_isInfix (hw : '\n' ∉ w) (hin : w <:+: text) :
    ∃ line, IsLine line text ∧ w <:+: line := by
  obtain ⟨before, after, rfl⟩ := hin
  let inLine : Char → Bool := fun c ↦ decide (c ≠ '\n')
  let left := before.rtakeWhile inLine
  let right := after.takeWhile inLine
  have hleft : '\n' ∉ left := fun hmem ↦ by
    simpa [inLine] using List.mem_rtakeWhile_imp hmem
  have hright : '\n' ∉ right := fun hmem ↦ by
    simpa [inLine] using List.mem_takeWhile_imp hmem
  refine ⟨left ++ w ++ right, ⟨?_, before.rdropWhile inLine, after.dropWhile inLine, ?_, ?_, ?_⟩,
    left, right, rfl⟩
  · simp [hleft, hw, hright]
  · calc before ++ w ++ after
        = (before.rdropWhile inLine ++ left) ++ w ++ (right ++ after.dropWhile inLine) := by
          rw [List.rdropWhile_append_rtakeWhile, List.takeWhile_append_dropWhile]
      _ = _ := by simp only [List.append_assoc]
  · intro c hc
    obtain ⟨hne, rfl⟩ := List.mem_getLast?_eq_getLast hc
    simpa [inLine] using List.rdropWhile_last_not inLine before hne
  · intro c hc
    have hstop := List.head?_dropWhile_not inLine after
    rw [Option.mem_def.mp hc] at hstop
    simpa [inLine] using hstop

end Lines

section Rows

variable {first more : List (Language Char)} {text : List Char}

theorem HoldsInOrder.cons (h : HoldsInOrder first text) (c : Char) :
    HoldsInOrder first (c :: text) := by
  cases first with
  | nil => trivial
  | cons word first =>
    obtain ⟨gap, part, rest, rfl, hpart, hrest⟩ := h
    exact ⟨c :: gap, part, rest, rfl, hpart, hrest⟩

/-- A text that holds a row of words holds every shorter row that it begins with. -/
theorem HoldsInOrder.of_append (h : HoldsInOrder (first ++ more) text) :
    HoldsInOrder first text := by
  induction first generalizing text with
  | nil => trivial
  | cons word first ih =>
    obtain ⟨gap, part, rest, rfl, hpart, hrest⟩ := h
    exact ⟨gap, part, rest, rfl, hpart, ih hrest⟩

/-- A text that does not hold so many words of a language without overlap does not hold more. -/
theorem lt_of_holdsInOrder_replicate {word : Language Char} {n most : ℕ}
    (hmost : ¬ HoldsInOrder (List.replicate most word) text)
    (h : HoldsInOrder (List.replicate n word) text) : n < most := by
  by_contra hle
  have hsplit : List.replicate n word =
      List.replicate most word ++ List.replicate (n - most) word := by
    rw [List.replicate_append_replicate, Nat.add_sub_cancel' (not_lt.mp hle)]
  rw [hsplit] at h
  exact hmost h.of_append

end Rows

namespace Pattern

/-- No stretch of the pattern holds a line feed. -/
def staysInLine : Pattern → Bool
  | empty | start | finish => true
  | oneOf k => !k.contains '\n'
  | seq p q | either p q => p.staysInLine && q.staysInLine
  | many p => p.staysInLine

theorem staysInLine_eq_avoids (p : Pattern) : p.staysInLine = p.avoids '\n' := by
  induction p with
  | empty | start | finish | oneOf => rfl
  | seq p q ihp ihq | either p q ihp ihq => rw [staysInLine, avoids, ihp, ihq]
  | many p ih => exact ih

theorem not_mem_of_staysInLine {p : Pattern} (hp : p.staysInLine = true) {w : List Char}
    (hw : w ∈ p.language) : '\n' ∉ w :=
  not_mem_of_avoids (p.staysInLine_eq_avoids ▸ hp) hw

theorem staysInLine_sequence (ps : List Pattern) :
    (sequence ps).staysInLine = ps.all staysInLine := by
  rw [staysInLine_eq_avoids, avoids_sequence]
  simp only [funext staysInLine_eq_avoids]

theorem occursIn_iff_line {p : Pattern} {text : List Char} (hfree : p.anchorFree = true)
    (hp : p.staysInLine = true) : p.OccursIn text ↔ ∃ line, IsLine line text ∧ p.OccursIn line := by
  constructor
  · intro hoccurs
    obtain ⟨w, hw, hin⟩ := (occursIn_iff_isInfix hfree).mp hoccurs
    obtain ⟨line, hline, hinLine⟩ := exists_line_of_isInfix (not_mem_of_staysInLine hp hw) hin
    exact ⟨line, hline, (occursIn_iff_isInfix hfree).mpr ⟨w, hw, hinLine⟩⟩
  · rintro ⟨line, hline, hoccurs⟩
    exact hoccurs.of_isInfix hfree hline.isInfix

/-! ### Parts in order -/

/-- Parts in order have what the gap has exactly if all of them have it. -/
theorem inOrder_iff_forall {P : Pattern → Prop} (hempty : P empty) (hgap : P gap)
    (hseq : ∀ p q, P (seq p q) ↔ P p ∧ P q) {ps : List Pattern} :
    P (inOrder ps) ↔ ∀ p ∈ ps, P p := by
  induction ps with
  | nil => simp [inOrder, hempty]
  | cons p ps ih =>
    rw [List.forall_mem_cons, ← ih]
    cases ps with
    | nil => simp [inOrder, hempty]
    | cons q ps =>
      have hrest : P (seq gap (inOrder (q :: ps))) ↔ P (inOrder (q :: ps)) := by
        rw [hseq, and_iff_right hgap]
      exact (hseq p _).trans (and_congr_right' hrest)

@[simp] theorem anchorFree_inOrder (ps : List Pattern) :
    (inOrder ps).anchorFree = ps.all anchorFree := by
  rw [Bool.eq_iff_iff, List.all_eq_true]
  exact inOrder_iff_forall (P := (·.anchorFree = true)) rfl rfl fun p q ↦ Bool.and_eq_true_iff

theorem staysInLine_inOrder (ps : List Pattern) :
    (inOrder ps).staysInLine = ps.all staysInLine := by
  rw [Bool.eq_iff_iff, List.all_eq_true]
  exact inOrder_iff_forall (P := (·.staysInLine = true)) rfl (by decide) fun p q ↦ Bool.and_eq_true_iff

/-- Within a line, gaps may be any text. -/
theorem holdsInOrder_iff_isInfix {p : Pattern} {ps : List Pattern} {line : List Char}
    (hline : '\n' ∉ line) : HoldsInOrder ((p :: ps).map language) line ↔
      ∃ w ∈ (inOrder (p :: ps)).language, w <:+: line := by
  induction ps generalizing p line with
  | nil =>
    constructor
    · rintro ⟨gap, part, rest, rfl, hpart, _⟩
      exact ⟨part, hpart, gap, rest, by rw [List.append_assoc]⟩
    · rintro ⟨part, hpart, gap, rest, rfl⟩
      exact ⟨gap, part, rest, by rw [List.append_assoc], hpart, trivial⟩
  | cons q ps ih =>
    constructor
    · rintro ⟨gap, part, rest, rfl, hpart, hrest⟩
      simp only [List.mem_append, not_or] at hline
      obtain ⟨w, hw, skipped, after, rfl⟩ := (ih hline.2.2).mp hrest
      simp only [List.mem_append, not_or] at hline
      refine ⟨part ++ (skipped ++ w), ?_, gap, after, by simp only [List.append_assoc]⟩
      have hskipped : skipped ∈ Pattern.gap.language := mem_language_gap.mpr hline.2.2.1.1
      exact Language.append_mem_mul hpart (Language.append_mem_mul hskipped hw)
    · rintro ⟨w, hw, gap, after, rfl⟩
      obtain ⟨part, hpart, tail, htail, rfl⟩ := Language.mem_mul.mp hw
      obtain ⟨skipped, _, last, hlast, rfl⟩ := Language.mem_mul.mp htail
      refine ⟨gap, part, skipped ++ last ++ after, by simp only [List.append_assoc], hpart, ?_⟩
      refine (ih fun hmem ↦ hline ?_).mpr ⟨last, hlast, skipped, after, rfl⟩
      simp only [List.mem_append] at hmem ⊢
      tauto

theorem occursIn_inOrder (p : Pattern) (ps : List Pattern) {text : List Char}
    (hfree : (p :: ps).all anchorFree = true) (hps : (p :: ps).all staysInLine = true) :
    (inOrder (p :: ps)).OccursIn text ↔
      ∃ line, IsLine line text ∧ HoldsInOrder ((p :: ps).map language) line := by
  rw [← anchorFree_inOrder] at hfree
  rw [← staysInLine_inOrder] at hps
  rw [occursIn_iff_line hfree hps]
  refine exists_congr fun line ↦ and_congr_right fun hline ↦ ?_
  rw [occursIn_iff_isInfix hfree, holdsInOrder_iff_isInfix hline.1]

/-- A gap in front is no condition: it may be empty. -/
theorem occursIn_seq_gap {p : Pattern} {text : List Char} (hfree : p.anchorFree = true) :
    (seq gap p).OccursIn text ↔ p.OccursIn text := by
  rw [occursIn_iff_isInfix (by simpa [anchorFree, gap] using hfree), occursIn_iff_isInfix hfree]
  constructor
  · rintro ⟨w, hw, hin⟩
    obtain ⟨skipped, _, rest, hrest, rfl⟩ := Language.mem_mul.mp hw
    exact ⟨rest, hrest, (List.suffix_append skipped rest).isInfix.trans hin⟩
  · rintro ⟨w, hw, hin⟩
    have hempty : [] ∈ gap.language := mem_language_gap.mpr List.not_mem_nil
    exact ⟨w, Language.append_mem_mul hempty hw, hin⟩

end Pattern

end FormulaAudit
