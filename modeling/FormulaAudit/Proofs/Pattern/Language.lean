import FormulaAudit.Proofs.Pattern.Search
import Mathlib.Computability.Language

/-!
The languages of patterns. A pattern without anchors says nothing about the place where a stretch
stands, so what it describes is a language, and a search for it asks whether the text has a part
that belongs to this language (`occursIn_iff_isInfix`). Such a pattern is still found when more text
is put around (`OccursIn.of_isInfix`). A pattern for a whole text has anchors at both ends only and
describes the words of a language, each alone or with one line feed behind it
(`occursIn_anchored`). Which characters the words of a language cannot hold is read off the classes
of the pattern (`not_mem_of_avoids`).
-/

set_option autoImplicit false

namespace FormulaAudit.Pattern

open scoped Computability

/-- The pattern does not ask where its stretches stand. -/
def anchorFree : Pattern → Bool
  | start | finish => false
  | empty | oneOf _ => true
  | seq p q | either p q => p.anchorFree && q.anchorFree
  | many p => p.anchorFree

/-- The texts that the stretches of a pattern may be. -/
def language : Pattern → Language Char
  | empty | start | finish => 1
  | oneOf k => {w | ∃ c, k.contains c = true ∧ w = [c]}
  | seq p q => p.language * q.language
  | either p q => p.language + q.language
  | many p => p.language∗

section Spans

variable {p q : Pattern} {before mid after : List Char}

theorem Spans.mem_language (hspan : p.Spans before mid after) : mid ∈ p.language := by
  induction hspan with
  | empty | start | finish | finishLine => exact Language.nil_mem_one
  | oneOf _ _ hk => exact ⟨_, hk, rfl⟩
  | seq _ _ ih₁ ih₂ => exact Language.append_mem_mul ih₁ ih₂
  | left _ _ ih => exact (Language.mem_add _ _ _).mpr (Or.inl ih)
  | right _ _ ih => exact (Language.mem_add _ _ _).mpr (Or.inr ih)
  | done => exact Language.nil_mem_kstar _
  | more _ _ ih₁ ih₂ =>
    obtain ⟨parts, rfl, hparts⟩ := Language.mem_kstar.mp ih₂
    refine Language.mem_kstar.mpr ⟨_ :: parts, rfl, fun part hpart ↦ ?_⟩
    rcases List.mem_cons.mp hpart with rfl | hin
    · exact ih₁
    · exact hparts part hin

/-- Without anchors, the text of a stretch is all that counts. -/
theorem spans_iff_mem_language (hfree : p.anchorFree = true) :
    p.Spans before mid after ↔ mid ∈ p.language := by
  refine ⟨Spans.mem_language, fun hmid ↦ ?_⟩
  induction p generalizing before mid after with
  | empty =>
    obtain rfl := (Language.mem_one mid).mp hmid
    exact .empty before after
  | start | finish => cases hfree
  | oneOf k =>
    obtain ⟨c, hk, rfl⟩ := hmid
    exact .oneOf before after hk
  | seq p q hp hq =>
    rw [anchorFree, Bool.and_eq_true] at hfree
    obtain ⟨first, hfirst, second, hsecond, rfl⟩ := Language.mem_mul.mp hmid
    exact .seq (hp hfree.1 hfirst) (hq hfree.2 hsecond)
  | either p q hp hq =>
    rw [anchorFree, Bool.and_eq_true] at hfree
    rcases (Language.mem_add _ _ _).mp hmid with hin | hin
    · exact .left q (hp hfree.1 hin)
    · exact .right p (hq hfree.2 hin)
  | many p hp =>
    obtain ⟨parts, rfl, hparts⟩ := Language.mem_kstar.mp hmid
    clear hmid
    induction parts generalizing before with
    | nil => exact .done p before after
    | cons part parts ih =>
      have hfirst : p.Spans before part (parts.flatten ++ after) :=
        hp hfree (hparts part List.mem_cons_self)
      exact .more hfirst (ih fun other hother ↦ hparts other (List.mem_cons_of_mem part hother))

end Spans

section Occurrences

variable {p : Pattern} {text more : List Char}

theorem occursIn_iff_isInfix (hfree : p.anchorFree = true) :
    p.OccursIn text ↔ ∃ w ∈ p.language, w <:+: text := by
  constructor
  · rintro ⟨before, mid, after, rfl, hspan⟩
    exact ⟨mid, hspan.mem_language, before, after, by rw [List.append_assoc]⟩
  · rintro ⟨w, hw, before, after, rfl⟩
    exact ⟨before, w, after, by rw [List.append_assoc], (spans_iff_mem_language hfree).mpr hw⟩

theorem OccursIn.of_isInfix (hfree : p.anchorFree = true) (hp : p.OccursIn text)
    (htext : text <:+: more) : p.OccursIn more := by
  rw [occursIn_iff_isInfix hfree] at hp ⊢
  obtain ⟨w, hw, hin⟩ := hp
  exact ⟨w, hw, hin.trans htext⟩

end Occurrences

/-! ### The patterns that others are made of -/

section Composites

variable {k : CharClass} {c : Char} {w : List Char} {ps : List Pattern}

theorem mem_language_oneOf : w ∈ (oneOf k).language ↔ ∃ c, k.contains c = true ∧ w = [c] := Iff.rfl

theorem language_sequence (ps : List Pattern) :
    (sequence ps).language = (ps.map language).prod := by
  induction ps with
  | nil => rfl
  | cons p ps ih =>
    rw [List.map_cons, List.prod_cons, ← ih]
    cases ps with
    | nil => exact (mul_one p.language).symm
    | cons q ps => rfl

/-- What a pattern of two parts has exactly if both parts have it, a sequence has exactly if all its
parts do. -/
theorem sequence_iff_forall {P : Pattern → Prop} (hempty : P empty)
    (hseq : ∀ p q, P (seq p q) ↔ P p ∧ P q) : P (sequence ps) ↔ ∀ p ∈ ps, P p := by
  induction ps with
  | nil => simp [sequence, hempty]
  | cons p ps ih =>
    rw [List.forall_mem_cons, ← ih]
    cases ps with
    | nil => simp [sequence, hempty]
    | cons q ps => exact hseq p _

@[simp] theorem anchorFree_sequence (ps : List Pattern) :
    (sequence ps).anchorFree = ps.all anchorFree := by
  rw [Bool.eq_iff_iff, List.all_eq_true]
  exact sequence_iff_forall (P := (·.anchorFree = true)) rfl fun p q ↦ Bool.and_eq_true_iff

@[simp] theorem anchorFree_literal (text : String) : (literal text).anchorFree = true := by
  simp [literal, anchorFree]

@[simp] theorem anchorFree_caseless (text : String) : (caseless text).anchorFree = true := by
  simp [caseless, anchorFree]

/-- A class for each character of a text describes the texts with a fitting character at each
place. -/
theorem mem_language_classes (classOf : Char → CharClass) (cs : List Char) :
    w ∈ (sequence (cs.map fun c ↦ oneOf (classOf c))).language ↔
      List.Forall₂ (fun d c ↦ (classOf c).contains d = true) w cs := by
  rw [language_sequence]
  induction cs generalizing w with
  | nil => simp [Language.mem_one]
  | cons c cs ih =>
    rw [List.map_cons, List.map_cons, List.prod_cons, Language.mem_mul]
    constructor
    · rintro ⟨_, ⟨d, hd, rfl⟩, rest, hrest, rfl⟩
      exact .cons hd (ih.mp hrest)
    · rintro (_ | ⟨hd, hrest⟩)
      exact ⟨_, ⟨_, hd, rfl⟩, _, ih.mpr hrest, rfl⟩

theorem mem_language_literal (text : String) : w ∈ (literal text).language ↔ w = text.toList := by
  rw [literal, mem_language_classes]
  simp only [CharClass.contains_single, beq_iff_eq]
  exact List.forall₂_eq_eq_eq ▸ Iff.rfl

theorem mem_language_caseless (text : String) : w ∈ (caseless text).language ↔
    List.Forall₂ (fun d c ↦ d ∈ Text.caselessVariants c) w text.toList := by
  rw [caseless, mem_language_classes]
  simp only [CharClass.contains_caseless, decide_eq_true_eq]

theorem mem_language_many_oneOf :
    w ∈ (many (oneOf k)).language ↔ ∀ c ∈ w, k.contains c = true := by
  have hspans : (many (oneOf k)).Spans [] w [] ↔ w ∈ (many (oneOf k)).language :=
    spans_iff_mem_language rfl
  rw [← hspans, spans_many_oneOf]

theorem mem_language_repeated_oneOf : w ∈ (repeated (oneOf k)).language ↔
    w ≠ [] ∧ ∀ c ∈ w, k.contains c = true := by
  rw [repeated, language, Language.mem_mul]
  constructor
  · rintro ⟨_, ⟨c, hc, rfl⟩, rest, hrest, rfl⟩
    refine ⟨List.cons_ne_nil c rest, fun d hd ↦ ?_⟩
    rcases List.mem_cons.mp hd with rfl | hin
    · exact hc
    · exact mem_language_many_oneOf.mp hrest d hin
  · rintro ⟨hne, hall⟩
    cases w with
    | nil => exact absurd rfl hne
    | cons c rest =>
      refine ⟨[c], ⟨c, hall c List.mem_cons_self, rfl⟩, rest, ?_, rfl⟩
      exact mem_language_many_oneOf.mpr fun d hd ↦ hall d (List.mem_cons_of_mem c hd)

theorem mem_language_gap : w ∈ gap.language ↔ '\n' ∉ w := by
  rw [gap, mem_language_many_oneOf]
  constructor
  · intro hall hin
    simpa using hall '\n' hin
  · intro hnot c hc
    have hne : c ≠ '\n' := fun heq ↦ hnot (heq ▸ hc)
    simpa using hne

end Composites

/-! ### Characters that no word holds -/

/-- No class of the pattern holds the character. -/
def avoids (c : Char) : Pattern → Bool
  | empty | start | finish => true
  | oneOf k => !k.contains c
  | seq p q | either p q => p.avoids c && q.avoids c
  | many p => p.avoids c

theorem not_mem_of_avoids {p : Pattern} {c : Char} (hp : p.avoids c = true) {w : List Char}
    (hw : w ∈ p.language) : c ∉ w := by
  induction p generalizing w with
  | empty | start | finish =>
    obtain rfl := (Language.mem_one w).mp hw
    exact List.not_mem_nil
  | oneOf k =>
    obtain ⟨d, hd, rfl⟩ := hw
    intro hmem
    obtain rfl := List.mem_singleton.mp hmem
    simp [avoids, hd] at hp
  | seq p q ihp ihq =>
    rw [avoids, Bool.and_eq_true] at hp
    obtain ⟨first, hfirst, second, hsecond, rfl⟩ := Language.mem_mul.mp hw
    rw [List.mem_append, not_or]
    exact ⟨ihp hp.1 hfirst, ihq hp.2 hsecond⟩
  | either p q ihp ihq =>
    rw [avoids, Bool.and_eq_true] at hp
    rcases (Language.mem_add _ _ _).mp hw with hin | hin
    · exact ihp hp.1 hin
    · exact ihq hp.2 hin
  | many p ih =>
    obtain ⟨parts, rfl, hparts⟩ := Language.mem_kstar.mp hw
    intro hmem
    obtain ⟨part, hpart, hin⟩ := List.mem_flatten.mp hmem
    exact ih hp (hparts part hpart) hin

theorem avoids_sequence (c : Char) (ps : List Pattern) :
    (sequence ps).avoids c = ps.all (avoids c) := by
  rw [Bool.eq_iff_iff, List.all_eq_true]
  exact sequence_iff_forall (P := (·.avoids c = true)) rfl fun p q ↦ Bool.and_eq_true_iff

/-! ### Patterns for whole texts -/

section Anchored

variable {before mid after text : List Char}

theorem spans_sequence_cons {p : Pattern} {ps : List Pattern} :
    Spans (sequence (p :: ps)) before mid after ↔ ∃ first rest, mid = first ++ rest ∧
      p.Spans before first (rest ++ after) ∧ Spans (sequence ps) (before ++ first) rest after := by
  cases ps with
  | nil =>
    constructor
    · intro hspan
      exact ⟨mid, [], by simp, hspan, .empty _ _⟩
    · rintro ⟨first, rest, rfl, hfirst, hrest⟩
      cases hrest
      simpa [sequence] using hfirst
  | cons q ps =>
    constructor
    · intro hspan
      cases hspan with
      | seq hfirst hrest => exact ⟨_, _, rfl, hfirst, hrest⟩
    · rintro ⟨first, rest, rfl, hfirst, hrest⟩
      exact .seq hfirst hrest

theorem spans_sequence_concat {p : Pattern} {ps : List Pattern} :
    Spans (sequence (ps ++ [p])) before mid after ↔ ∃ first rest, mid = first ++ rest ∧
      Spans (sequence ps) before first (rest ++ after) ∧ p.Spans (before ++ first) rest after := by
  induction ps generalizing before mid with
  | nil =>
    constructor
    · intro hspan
      exact ⟨[], mid, rfl, .empty _ _, by simpa [sequence] using hspan⟩
    · rintro ⟨first, rest, rfl, hfirst, hrest⟩
      cases hfirst
      simpa [sequence] using hrest
  | cons q ps ih =>
    rw [List.cons_append, spans_sequence_cons]
    constructor
    · rintro ⟨first, rest, rfl, hfirst, hrest⟩
      obtain ⟨middle, last, rfl, hmiddle, hlast⟩ := ih.mp hrest
      refine ⟨first ++ middle, last, by rw [List.append_assoc], ?_, by
        rwa [← List.append_assoc]⟩
      exact spans_sequence_cons.mpr ⟨first, middle, rfl, by rwa [← List.append_assoc], hmiddle⟩
    · rintro ⟨front, last, rfl, hfront, hlast⟩
      obtain ⟨first, middle, rfl, hfirst, hmiddle⟩ := spans_sequence_cons.mp hfront
      refine ⟨first, middle ++ last, by rw [List.append_assoc], by rwa [List.append_assoc], ?_⟩
      exact ih.mpr ⟨middle, last, rfl, hmiddle, by rwa [List.append_assoc]⟩

/-- Between anchors at both ends the parts describe the whole text, up to one line feed. -/
theorem occursIn_anchored {ps : List Pattern} (hfree : ps.all anchorFree = true) :
    (sequence (start :: ps ++ [finish])).OccursIn text ↔
      ∃ w ∈ (ps.map language).prod, text = w ∨ text = w ++ ['\n'] := by
  have hbody {before w after : List Char} :
      Spans (sequence ps) before w after ↔ w ∈ (ps.map language).prod := by
    rw [spans_iff_mem_language (by rw [anchorFree_sequence, hfree]), language_sequence]
  constructor
  · rintro ⟨before, mid, after, rfl, hspan⟩
    rw [List.cons_append, spans_sequence_cons] at hspan
    obtain ⟨first, rest, rfl, hstart, hrest⟩ := hspan
    cases hstart
    obtain ⟨w, last, rfl, hw, hfinish⟩ := spans_sequence_concat.mp hrest
    cases hfinish with
    | finish => exact ⟨w, hbody.mp hw, Or.inl (by simp)⟩
    | finishLine => exact ⟨w, hbody.mp hw, Or.inr (by simp)⟩
  · rintro ⟨w, hw, htext⟩
    have hspan {after : List Char} (hend : Spans finish w [] after) :
        Spans (sequence (start :: ps ++ [finish])) [] w after := by
      rw [List.cons_append, spans_sequence_cons]
      refine ⟨[], w, rfl, .start _, spans_sequence_concat.mpr ⟨w, [], by simp, hbody.mpr hw, ?_⟩⟩
      exact hend
    rcases htext with rfl | rfl
    · exact ⟨[], text, [], by simp, hspan (.finish text)⟩
    · exact ⟨[], w, ['\n'], rfl, hspan (.finishLine w)⟩

/-- What a pattern for whole texts avoids is in no text that it is found in, the line feed at the
end apart. -/
theorem not_mem_of_occursIn_anchored {ps : List Pattern} {c : Char}
    (hfree : ps.all anchorFree = true) (hps : ps.all (avoids c) = true) (hfeed : c ≠ '\n')
    (hoccurs : (sequence (start :: ps ++ [finish])).OccursIn text) : c ∉ text := by
  obtain ⟨w, hw, htext⟩ := (occursIn_anchored hfree).mp hoccurs
  rw [← language_sequence] at hw
  have hword : c ∉ w := not_mem_of_avoids (by rwa [avoids_sequence]) hw
  rcases htext with rfl | rfl
  · exact hword
  · simp [hword, hfeed]

end Anchored

end FormulaAudit.Pattern
