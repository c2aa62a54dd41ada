import FormulaAudit.Features
import Mathlib.Data.List.Infix

/-!
The counters of a formula count places. A reader that goes on behind each call of `IF` that it has
found counts the same calls as one that looks at every place, as two such calls do not overlap
(`ifCalls_eq_places`). Counts of places can only grow when text is put around
(`places_le_of_isInfix`).
-/

set_option autoImplicit false

namespace FormulaAudit.Features

/-- The number of places of a text at which what follows is as asked for. -/
def places (fits : List Char → Bool) (cs : List Char) : Nat := cs.tails.countP fits

/-- A character of a name and an opening parenthesis follow. -/
def atCall (inName : Char → Bool) : List Char → Bool
  | name :: bracket :: _ => inName name && bracket == '('
  | _ => false

/-- The word `IF`, in any case, and an opening parenthesis follow. -/
def atIf : List Char → Bool
  | first :: second :: bracket :: _ =>
    (Text.caselessVariants 'I').contains first && (Text.caselessVariants 'F').contains second
      && bracket == '('
  | _ => false

section Places

variable {fits : List Char → Bool}

theorem places_cons (c : Char) (cs : List Char) :
    places fits (c :: cs) = places fits cs + if fits (c :: cs) = true then 1 else 0 := by
  rw [places, List.tails_cons, List.countP_cons]
  rfl

theorem places_nil : places fits [] = if fits [] = true then 1 else 0 := by
  rw [places, List.tails, List.countP_singleton]

/-- The count goes through the text place by place. -/
theorem places_eq_countP_drop (cs : List Char) :
    places fits cs = (List.range (cs.length + 1)).countP fun i ↦ fits (cs.drop i) := by
  induction cs with
  | nil => rfl
  | cons c cs ih =>
    have hrange : List.range (cs.length + 1 + 1) = 0 :: (List.range (cs.length + 1)).map (· + 1) :=
      List.range_succ_eq_map
    rw [places_cons, ih, List.length_cons, hrange, List.countP_cons, List.countP_map]
    rfl

/-- What is known of a place by the text from a fixed distance in front of it on is counted by the
places of that text. -/
theorem countP_range_eq_places {isPlace : ℕ → Bool} {cs : List Char} (distance : ℕ)
    (hplace : ∀ i, isPlace (i + distance) = fits (cs.drop i))
    (hfront : ∀ place < distance, isPlace place = false)
    (hbeyond : ∀ place, cs.length ≤ place → isPlace place = false) :
    (List.range cs.length).countP isPlace = places fits cs := by
  have hnone : ((List.range (distance + 1)).map (cs.length + ·)).countP isPlace = 0 :=
    List.countP_eq_zero.mpr (by simp +contextual [hbeyond])
  have hearly : (List.range distance).countP isPlace = 0 :=
    List.countP_eq_zero.mpr (by simp +contextual [hfront])
  -- Nothing is counted beyond the end of the text, so the range may be longer than the text.
  calc (List.range cs.length).countP isPlace
      = (List.range (cs.length + (distance + 1))).countP isPlace := by
        rw [List.range_add, List.countP_append, hnone, Nat.add_zero]
    _ = (List.range (distance + (cs.length + 1))).countP isPlace := by
        rw [Nat.add_left_comm]
    _ = (List.range (cs.length + 1)).countP fun i ↦ fits (cs.drop i) := by
        rw [List.range_add, List.countP_append, hearly, Nat.zero_add, List.countP_map]
        simp only [Function.comp_def, Nat.add_comm distance, hplace]
    _ = places fits cs := (places_eq_countP_drop cs).symm

theorem places_le_append_left (before cs : List Char) :
    places fits cs ≤ places fits (before ++ cs) := by
  induction before with
  | nil => exact Nat.le_refl _
  | cons c before ih =>
    rw [List.cons_append, places_cons]
    omega

/-- What fits goes on to fit when the text is longer. -/
def Lasting (fits : List Char → Bool) : Prop :=
  ∀ cs after, fits cs = true → fits (cs ++ after) = true

theorem places_le_append_right (hlasting : Lasting fits) (cs after : List Char) :
    places fits cs ≤ places fits (cs ++ after) := by
  induction cs with
  | nil =>
    have hnil : places fits [] ≤ places fits (after ++ []) := places_le_append_left after []
    rw [List.append_nil] at hnil
    exact hnil
  | cons c cs ih =>
    rw [List.cons_append, places_cons, places_cons]
    by_cases hfits : fits (c :: cs) = true
    · have hmore : fits (c :: (cs ++ after)) = true := hlasting (c :: cs) after hfits
      rw [if_pos hfits, if_pos hmore]
      omega
    · rw [if_neg hfits]
      omega

theorem places_le_of_isInfix (hlasting : Lasting fits) {cs more : List Char} (hin : cs <:+: more) :
    places fits cs ≤ places fits more := by
  obtain ⟨before, after, rfl⟩ := hin
  calc places fits cs ≤ places fits (before ++ cs) := places_le_append_left before cs
    _ ≤ places fits (before ++ cs ++ after) := places_le_append_right hlasting _ after

end Places

theorem lasting_atCall (inName : Char → Bool) : Lasting (atCall inName) := by
  intro cs after hfits
  match cs with
  | [] | [_] => simp [atCall] at hfits
  | _ :: _ :: _ => exact hfits

theorem lasting_atIf : Lasting atIf := by
  intro cs after hfits
  match cs with
  | [] | [_] | [_, _] => simp [atIf] at hfits
  | _ :: _ :: _ :: _ => exact hfits

/-- No call of `IF` begins with its parenthesis or one character in front of it. -/
theorem not_atIf_bracket (c : Char) (cs : List Char) :
    ¬ atIf ('(' :: cs) = true ∧ ¬ atIf (c :: '(' :: cs) = true := by
  have hfirst : (Text.caselessVariants 'I').contains '(' = false := by decide
  have hsecond : (Text.caselessVariants 'F').contains '(' = false := by decide
  constructor
  · match cs with
    | [] | [_] => simp [atIf]
    | _ :: _ :: _ => simp only [atIf, hfirst, Bool.false_and, Bool.false_eq_true, not_false_iff]
  · match cs with
    | [] => simp [atIf]
    | _ :: _ =>
      simp only [atIf, hsecond, Bool.and_false, Bool.false_and, Bool.false_eq_true, not_false_iff]

theorem ifCalls_eq_places (cs : List Char) : ifCalls cs = places atIf cs := by
  fun_induction ifCalls cs with
  | case1 first second bracket cs hcall ih =>
    obtain rfl : bracket = '(' := by
      rw [Bool.and_eq_true, beq_iff_eq] at hcall
      exact hcall.2
    have hfits : atIf (first :: second :: '(' :: cs) = true := hcall
    obtain ⟨hbracket, hsecond⟩ := not_atIf_bracket second cs
    rw [places_cons, places_cons, places_cons, if_pos hfits, if_neg hsecond, if_neg hbracket, ih]
  | case2 first second bracket cs hcall ih =>
    have hfits : ¬ atIf (first :: second :: bracket :: cs) = true := hcall
    rw [places_cons, if_neg hfits, ih, Nat.add_zero]
  | case3 cs hshort =>
    match cs with
    | [] | [_] | [_, _] => simp [places_cons, places_nil, atIf]
    | first :: second :: bracket :: cs => exact absurd rfl (hshort first second bracket cs)

/-! ### Words and lists -/

theorem holds_iff_isInfix (word cs : List Char) : holds word cs = true ↔ word <:+: cs := by
  induction cs with
  | nil => simp [holds]
  | cons c cs ih => simp [holds, ih, List.infix_cons_iff]

end FormulaAudit.Features
