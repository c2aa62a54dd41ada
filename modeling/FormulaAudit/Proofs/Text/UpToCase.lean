import FormulaAudit.Proofs.Text.Letter
import FormulaAudit.Proofs.Text.UpperCase

/-!
Texts that differ in the case of letters only. Two texts are the same up to case (`SameUpToCase`) if
they agree once every ASCII letter is in lower case. Characters outside ASCII are left alone by that,
so whether a function of characters tells cases apart is decided on ASCII (`apply_toLower`). Texts
that are the same up to case have the same upper-case form (`uppercase_map_toLower`), and what the
one is split into splits the other (`sameUpToCase_append_iff`).
-/

set_option autoImplicit false

namespace FormulaAudit.Text

variable {c e : Char} {cs first second : List Char}

/-! ### One character -/

theorem toNat_lt_of_isUpper (hc : c.isUpper = true) : c.toNat < 128 := by
  obtain ⟨-, hle⟩ : 'A'.val ≤ c.val ∧ c.val ≤ 'Z'.val := by simpa [Char.isUpper] using hc
  exact lt_of_le_of_lt hle (by decide)

/-- A function that does not tell the cases of ASCII letters apart does not change when a character
is put in lower case. -/
theorem apply_toLower {α : Type} {f : Char → α}
    (hascii : ∀ code < 128, f (Char.ofNat code).toLower = f (Char.ofNat code)) (c : Char) :
    f c.toLower = f c := by
  by_cases hc : c.isUpper = true
  · exact forall_ascii (P := fun c ↦ f c.toLower = f c) hascii (toNat_lt_of_isUpper hc)
  · rw [Char.toLower_eq_of_not_isUpper hc]

/-- What is no letter is nothing else in lower case, and nothing else becomes it. -/
theorem toLower_eq_iff (he : e.isAlpha = false) : c.toLower = e ↔ c = e := by
  obtain ⟨hlower, hupper⟩ := toLower_eq_self_of_not_isAlpha he
  have hsame := toLower_eq_toLower_iff (c := c) (d := e)
  rwa [hlower, hupper, or_self] at hsame

theorem upper_toLower (c : Char) : upper c.toLower = upper c := apply_toLower (by decide +kernel) c

/-- What caseless matching accepts for an ASCII character it accepts in every case. -/
theorem toLower_mem_caselessVariants_iff {d : Char} (hd : d.toNat < 128) :
    c.toLower ∈ caselessVariants d ↔ c ∈ caselessVariants d := by
  have hdotted : c.toLower = '\u0130' ↔ c = '\u0130' := toLower_eq_iff (by decide)
  have hdotless : c.toLower = '\u0131' ↔ c = '\u0131' := toLower_eq_iff (by decide)
  have hlong : c.toLower = '\u017F' ↔ c = '\u017F' := toLower_eq_iff (by decide)
  have hkelvin : c.toLower = '\u212A' ↔ c = '\u212A' := toLower_eq_iff (by decide)
  rw [mem_caselessVariants_iff hd, mem_caselessVariants_iff hd, SameLetter, SameLetter,
    Char.toLower_toLower_eq_toLower, hdotted, hdotless, hlong, hkelvin]

/-! ### Texts in lower case -/

theorem uppercase_map_toLower (cs : List Char) :
    uppercase (cs.map Char.toLower) = uppercase cs := by
  rw [uppercase, uppercase, List.flatMap_map]
  simp only [upper_toLower]

theorem count_map_toLower (he : e.isAlpha = false) (cs : List Char) :
    (cs.map Char.toLower).count e = cs.count e := by
  rw [List.count, List.countP_map]
  refine List.countP_congr fun c _ ↦ ?_
  simp only [Function.comp_apply, beq_iff_eq, toLower_eq_iff he]

/-! ### Two texts -/

/-- The texts agree, character by character, up to the case of ASCII letters. -/
def SameUpToCase (first second : List Char) : Prop :=
  first.map Char.toLower = second.map Char.toLower

instance (first second : List Char) : Decidable (SameUpToCase first second) :=
  inferInstanceAs (Decidable (_ = _))

namespace SameUpToCase

theorem symm (h : SameUpToCase first second) : SameUpToCase second first := Eq.symm h

theorem length_eq (h : SameUpToCase first second) : first.length = second.length := by
  simpa using congrArg List.length h

theorem append {first' second' : List Char} (h : SameUpToCase first second)
    (h' : SameUpToCase first' second') : SameUpToCase (first ++ first') (second ++ second') := by
  rw [SameUpToCase, List.map_append, List.map_append, h, h']

/-- What is measured alike in lower case is measured alike on both texts. -/
theorem congr {α : Type} {f : List Char → α} (hf : ∀ cs, f (cs.map Char.toLower) = f cs)
    (h : SameUpToCase first second) : f first = f second := by
  rw [← hf first, h, hf second]

/-- A character that is no letter is in both texts or in neither. -/
theorem mem_iff (h : SameUpToCase first second) (he : e.isAlpha = false) :
    e ∈ first ↔ e ∈ second := by
  rw [← List.count_pos_iff, h.congr (count_map_toLower he), List.count_pos_iff]

end SameUpToCase

theorem sameUpToCase_nil_iff : SameUpToCase [] cs ↔ cs = [] := by
  rw [SameUpToCase, List.map_nil, eq_comm, List.map_eq_nil_iff]

theorem sameUpToCase_singleton_iff : SameUpToCase [c] cs ↔ ∃ d, cs = [d] ∧ c.toLower = d.toLower := by
  rw [SameUpToCase, List.map_singleton, eq_comm, List.map_eq_singleton_iff]
  simp only [eq_comm]

theorem sameUpToCase_append_iff : SameUpToCase (first ++ second) cs ↔
    ∃ first' second', cs = first' ++ second' ∧ SameUpToCase first first' ∧
      SameUpToCase second second' := by
  rw [SameUpToCase, List.map_append, eq_comm, List.map_eq_append_iff]
  simp only [SameUpToCase, eq_comm]

/-- A text of one character that is no letter is the only one up to case. -/
theorem sameUpToCase_sign_iff (he : e.isAlpha = false) : SameUpToCase [e] cs ↔ cs = [e] := by
  rw [sameUpToCase_singleton_iff, (toLower_eq_self_of_not_isAlpha he).1]
  simp only [eq_comm (a := e), toLower_eq_iff he, exists_eq_right]

end FormulaAudit.Text
