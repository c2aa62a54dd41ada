import FormulaAudit.Proofs.Pattern.Line
import FormulaAudit.Proofs.Text.UpToCase

/-!
Patterns that ignore case. If no class of a pattern tells the cases of a letter apart
(`Pattern.IgnoresCase`), the pattern describes the stretches of a text by their characters up to
case, and as anchors go by line feeds only, it is found in both of two texts that are the same up to
case or in neither (`occursIn_iff_of_sameUpToCase`).
-/

set_option autoImplicit false

namespace FormulaAudit

open Text

/-- The class holds every ASCII letter in both cases or in neither. -/
def CharClass.IgnoresCase (k : CharClass) : Prop := ∀ c, k.contains c.toLower = k.contains c

namespace Pattern

/-- No class of the pattern tells the cases of an ASCII letter apart. -/
def IgnoresCase : Pattern → Prop
  | empty | start | finish => True
  | oneOf k => k.IgnoresCase
  | seq p q | either p q => p.IgnoresCase ∧ q.IgnoresCase
  | many p => p.IgnoresCase

/-! ### Patterns that are put together -/

theorem ignoresCase_seq {p q : Pattern} :
    (seq p q).IgnoresCase ↔ p.IgnoresCase ∧ q.IgnoresCase := Iff.rfl

theorem ignoresCase_sequence {ps : List Pattern} :
    (sequence ps).IgnoresCase ↔ ∀ p ∈ ps, p.IgnoresCase :=
  sequence_iff_forall trivial fun _ _ ↦ ignoresCase_seq

/-- Signs have no case. -/
theorem ignoresCase_literal {text : String} (htext : ∀ c ∈ text.toList, c.isAlpha = false) :
    (literal text).IgnoresCase := by
  refine ignoresCase_sequence.mpr (List.forall_mem_map.mpr fun d hd c ↦ ?_)
  rw [CharClass.contains_single, CharClass.contains_single, Bool.eq_iff_iff, beq_iff_eq, beq_iff_eq,
    toLower_eq_iff (htext d hd)]

theorem ignoresCase_caseless {text : String} (htext : ∀ c ∈ text.toList, c.toNat < 128) :
    (caseless text).IgnoresCase := by
  refine ignoresCase_sequence.mpr (List.forall_mem_map.mpr fun d hd c ↦ ?_)
  rw [CharClass.contains_caseless, CharClass.contains_caseless, decide_eq_decide,
    toLower_mem_caselessVariants_iff (htext d hd)]

theorem ignoresCase_gap : gap.IgnoresCase := by
  intro c
  have hfeed : c.toLower = '\n' ↔ c = '\n' := toLower_eq_iff (by decide)
  simp only [CharClass.contains_withinLine, hfeed]

theorem ignoresCase_inOrder {ps : List Pattern} :
    (inOrder ps).IgnoresCase ↔ ∀ p ∈ ps, p.IgnoresCase :=
  inOrder_iff_forall trivial ignoresCase_gap fun _ _ ↦ ignoresCase_seq

/-! ### Stretches of two texts -/

variable {p : Pattern}

/-- What such a pattern holds of, it holds of in every other case. -/
theorem Spans.of_sameUpToCase {before mid after before' mid' after' : List Char}
    (hspan : p.Spans before mid after) (hp : p.IgnoresCase)
    (hbefore : SameUpToCase before before') (hmid : SameUpToCase mid mid')
    (hafter : SameUpToCase after after') : p.Spans before' mid' after' := by
  induction hspan generalizing before' mid' after' with
  | empty =>
    obtain rfl := sameUpToCase_nil_iff.mp hmid
    exact .empty before' after'
  | start =>
    obtain rfl := sameUpToCase_nil_iff.mp hbefore
    obtain rfl := sameUpToCase_nil_iff.mp hmid
    exact .start after'
  | finish =>
    obtain rfl := sameUpToCase_nil_iff.mp hmid
    obtain rfl := sameUpToCase_nil_iff.mp hafter
    exact .finish before'
  | finishLine =>
    obtain rfl := sameUpToCase_nil_iff.mp hmid
    obtain rfl := (sameUpToCase_sign_iff (by decide)).mp hafter
    exact .finishLine before'
  | oneOf before after hk =>
    obtain ⟨d, rfl, hd⟩ := sameUpToCase_singleton_iff.mp hmid
    refine .oneOf before' after' ?_
    rw [← hp d, ← hd, hp, hk]
  | seq _ _ ih₁ ih₂ =>
    obtain ⟨mid₁, mid₂, rfl, hmid₁, hmid₂⟩ := sameUpToCase_append_iff.mp hmid
    exact .seq (ih₁ hp.1 hbefore hmid₁ (hmid₂.append hafter))
      (ih₂ hp.2 (hbefore.append hmid₁) hmid₂ hafter)
  | left q _ ih =>
    exact .left q (ih hp.1 hbefore hmid hafter)
  | right p _ ih =>
    exact .right p (ih hp.2 hbefore hmid hafter)
  | done p =>
    obtain rfl := sameUpToCase_nil_iff.mp hmid
    exact .done p before' after'
  | more _ _ ih₁ ih₂ =>
    obtain ⟨mid₁, mid₂, rfl, hmid₁, hmid₂⟩ := sameUpToCase_append_iff.mp hmid
    exact .more (ih₁ hp hbefore hmid₁ (hmid₂.append hafter))
      (ih₂ hp (hbefore.append hmid₁) hmid₂ hafter)

theorem OccursIn.of_sameUpToCase {text variant : List Char} (hoccurs : p.OccursIn text)
    (hp : p.IgnoresCase) (h : SameUpToCase text variant) : p.OccursIn variant := by
  obtain ⟨before, mid, after, rfl, hspan⟩ := hoccurs
  obtain ⟨before', rest, rfl, hbefore, hrest⟩ := sameUpToCase_append_iff.mp h
  obtain ⟨mid', after', rfl, hmid, hafter⟩ := sameUpToCase_append_iff.mp hrest
  exact ⟨before', mid', after', rfl, hspan.of_sameUpToCase hp hbefore hmid hafter⟩

theorem occursIn_iff_of_sameUpToCase {text variant : List Char} (hp : p.IgnoresCase)
    (h : SameUpToCase text variant) : p.OccursIn text ↔ p.OccursIn variant :=
  ⟨fun hoccurs ↦ hoccurs.of_sameUpToCase hp h, fun hoccurs ↦ hoccurs.of_sameUpToCase hp h.symm⟩

end Pattern

end FormulaAudit
