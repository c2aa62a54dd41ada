import FormulaAudit.Text.LetterCase
import Mathlib

/-!
Upper case of whole texts. An ASCII character has one upper-case form, and that is ASCII. Outside
ASCII a character may turn into several, and some of these are ASCII: a ligature becomes its
letters. A word whose beginnings are no such forms, or parts of them (`Plain`), is therefore at the
end of an upper-case text only where the text itself has it in some case (`suffix_uppercase_iff`).
-/

set_option autoImplicit false

namespace FormulaAudit.Text

open LetterCase

variable {c d : Char} {cs : List Char}

/-- What holds of all ASCII characters is checked one by one. -/
theorem forall_ascii {P : Char → Prop} (hP : ∀ code < 128, P (Char.ofNat code))
    (hc : c.toNat < 128) : P c := by
  have hcode := hP c.toNat hc
  rwa [Char.ofNat_toNat] at hcode

theorem upper_of_ascii (hc : c.toNat < 128) : upper c = [c.toUpper] := by
  rw [upper, if_pos hc]

theorem uppercase_of_ascii (hcs : ∀ c ∈ cs, c.toNat < 128) :
    uppercase cs = cs.map Char.toUpper := by
  rw [uppercase, ← List.flatMap_singleton' (cs.map Char.toUpper), List.flatMap_map]
  exact List.flatMap_congr fun c hc ↦ upper_of_ascii (hcs c hc)

/-- The runs of the table that lead from outside ASCII into it: those of the dotless i and of the
long s. -/
theorem upperShifts_ascii : ∀ s ∈ upperShifts, s.last < 128 ∨ 128 ≤ (s.first : Int) + s.delta ∨
    (s.first = s.last ∧ ((s.first : Int) + s.delta = 73 ∨ (s.first : Int) + s.delta = 83)) := by
  decide +kernel

theorem image_upperShifts {code : ℕ} (hcode : 128 ≤ code) :
    128 ≤ image upperShifts code ∨ image upperShifts code = 73 ∨
      image upperShifts code = 83 := by
  unfold image
  split
  case h_1 s hs =>
    have hcovers : s.covers code = true := by simpa using List.find?_some hs
    obtain ⟨⟨hfirst, hlast⟩, -⟩ : (s.first ≤ code ∧ code ≤ s.last) ∧ _ := by
      simpa [Shift.covers] using hcovers
    have hrun := upperShifts_ascii s (List.mem_of_find?_eq_some hs)
    omega
  case h_2 => exact Or.inl hcode

/-- The only upper-case form of some character outside ASCII, if it is an ASCII character at all, is
one of two letters; the code 0 stands for no character. -/
def isSingleForm (e : Char) : Bool := 128 ≤ e.toNat || [0, 73, 83].contains e.toNat

theorem upper_of_not_ascii (hd : 128 ≤ d.toNat) :
    (∃ entry ∈ upperExpansions, upper d = entry.2.map Char.ofNat) ∨
      ∃ e, isSingleForm e = true ∧ upper d = [e] := by
  rw [upper, if_neg (by omega)]
  cases hentry : upperExpansions.lookup d.toNat with
  | some codes =>
    left
    obtain ⟨before, after, hsplit, -⟩ := List.lookup_eq_some_iff.mp hentry
    exact ⟨(d.toNat, codes), by rw [hsplit]; simp, rfl⟩
  | none =>
    right
    have himage := image_upperShifts hd
    refine ⟨_, ?_, rfl⟩
    rw [isSingleForm, Char.toNat_ofNat]
    split
    · simp
      omega
    · rfl

/-! ### Words in upper-case texts -/

/-- No beginning of the word ends the upper-case form of a character outside ASCII or ends with
it. -/
def Plain (word : List Char) : Prop :=
  ∀ d : Char, 128 ≤ d.toNat → ∀ start, start ≠ [] → start <+: word →
    ¬ start <:+ upper d ∧ ¬ upper d <:+ start

theorem plain_of_table {word : List Char} (hsingle : word.any isSingleForm = false)
    (htable : ∀ entry ∈ upperExpansions, ∀ start ∈ word.inits, start ≠ [] →
      ¬ start <:+ entry.2.map Char.ofNat ∧ ¬ entry.2.map Char.ofNat <:+ start) : Plain word := by
  intro d hd start hstart hstarts
  rcases upper_of_not_ascii hd with ⟨entry, hentry, hupper⟩ | ⟨e, he, hupper⟩
  · rw [hupper]
    exact htable entry hentry start ((List.mem_inits start word).mpr hstarts) hstart
  · have hout : e ∉ start := fun hmem ↦
      List.any_eq_false.mp hsingle e (hstarts.subset hmem) he
    rw [hupper]
    constructor
    · intro hsuffix
      obtain ⟨c, hc⟩ := List.exists_mem_of_ne_nil start hstart
      obtain rfl := List.mem_singleton.mp (hsuffix.subset hc)
      exact hout hc
    · intro hsuffix
      exact hout (hsuffix.subset List.mem_cons_self)

/-- A beginning of a plain word ends an upper-case text exactly if the text ends with it in some
case. -/
theorem suffix_uppercase_iff {word start : List Char} (hword : Plain word)
    (hstart : start <+: word) : start <:+ uppercase cs ↔
      ∃ w, w <:+ cs ∧ (∀ c ∈ w, c.toNat < 128) ∧ w.map Char.toUpper = start := by
  constructor
  · intro hsuffix
    induction cs using List.reverseRecOn generalizing start with
    | nil =>
      obtain rfl := List.suffix_nil.mp hsuffix
      exact ⟨[], List.nil_suffix, by simp, rfl⟩
    | append_singleton cs c ih =>
      rcases List.eq_nil_or_concat' start with rfl | ⟨front, last, rfl⟩
      · exact ⟨[], List.nil_suffix, by simp, rfl⟩
      have hform : uppercase [c] = upper c := by simp [uppercase]
      rw [uppercase_append, hform] at hsuffix
      by_cases hc : c.toNat < 128
      · rw [upper_of_ascii hc] at hsuffix
        obtain ⟨rest, hrest⟩ := hsuffix
        rw [← List.append_assoc, List.append_singleton_inj] at hrest
        obtain ⟨w, hw, hascii, hupper⟩ :=
          ih ((List.prefix_append front [last]).trans hstart) ⟨rest, hrest.1⟩
        refine ⟨w ++ [c], List.suffix_append_self_iff.mpr hw, ?_, ?_⟩
        · simpa [or_imp, forall_and] using ⟨hascii, hc⟩
        · simp [hupper, hrest.2]
      · obtain ⟨hshort, hlong⟩ := hword c (by omega) _ (by simp) hstart
        rcases List.suffix_or_suffix_of_suffix hsuffix (List.suffix_append _ _) with h | h
        · exact absurd h hshort
        · exact absurd h hlong
  · rintro ⟨w, ⟨before, rfl⟩, hascii, rfl⟩
    rw [uppercase_append, uppercase_of_ascii hascii]
    exact List.suffix_append _ _

/-- An opening parenthesis has no other case. -/
theorem eq_bracket_of_mem_upper (hmem : '(' ∈ upper c) : c = '(' := by
  by_cases hc : c.toNat < 128
  · rw [upper_of_ascii hc, List.mem_singleton] at hmem
    exact forall_ascii (P := fun c ↦ '(' = c.toUpper → c = '(') (by decide +kernel) hc hmem
  · have hout : 128 ≤ c.toNat := by omega
    rcases upper_of_not_ascii hout with ⟨entry, hentry, hupper⟩ | ⟨e, he, hupper⟩
    · have htable : ∀ entry ∈ upperExpansions, '(' ∉ entry.2.map Char.ofNat := by decide +kernel
      rw [hupper] at hmem
      exact absurd hmem (htable entry hentry)
    · rw [hupper, List.mem_singleton] at hmem
      rw [← hmem] at he
      exact absurd he (by decide)

theorem uppercase_cons (c : Char) (cs : List Char) :
    uppercase (c :: cs) = upper c ++ uppercase cs := rfl

/-- An opening parenthesis of the upper-case text is one of the text. -/
theorem exists_bracket_of_uppercase {front rest : List Char}
    (hcs : uppercase cs = front ++ '(' :: rest) :
    ∃ before after, cs = before ++ '(' :: after ∧ uppercase before = front := by
  induction cs generalizing front with
  | nil => simp at hcs
  | cons c cs ih =>
    rw [uppercase_cons] at hcs
    rcases List.append_eq_append_iff.mp hcs with ⟨more, rfl, hmore⟩ | ⟨more, hupper, hmore⟩
    · obtain ⟨before, after, rfl, rfl⟩ := ih hmore
      exact ⟨c :: before, after, rfl, uppercase_cons c before⟩
    · cases more with
      | nil =>
        have hrest : uppercase cs = [] ++ '(' :: rest := hmore.symm
        obtain ⟨before, after, rfl, hbefore⟩ := ih hrest
        refine ⟨c :: before, after, rfl, ?_⟩
        rw [uppercase_cons, hbefore, hupper, List.append_nil, List.append_nil]
      | cons e more =>
        obtain ⟨rfl, -⟩ := List.cons.inj hmore
        obtain rfl : c = '(' := eq_bracket_of_mem_upper (by rw [hupper]; simp)
        -- The form of the parenthesis is a single character, so nothing stands in front of it.
        have hform : ['('] = front ++ '(' :: more := hupper
        rcases front with _ | ⟨e, front⟩
        · exact ⟨[], cs, rfl, rfl⟩
        · simp at hform

end FormulaAudit.Text
