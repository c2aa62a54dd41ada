import FormulaAudit.Json.Parser
import FormulaAudit.Proofs.Json.Grammar
import Mathlib.Data.List.Basic

/-!
The reader follows the grammar: a text that writes a value by the grammar is read as that value
(`parse?_of_writesText`). It follows that a text writes one value at most. A number is the only
value whose end is not marked, so what may follow a value matters there alone (`Ends`).
-/

set_option autoImplicit false

namespace FormulaAudit.Json

/-! ### Blanks -/

theorem skipBlanks_append {blanks : List Char} (hblanks : Blanks blanks) (cs : List Char) :
    skipBlanks (blanks ++ cs) = skipBlanks cs := by
  refine List.dropWhile_append_of_pos fun c hc ↦ ?_
  have hmem := hblanks c hc
  simp only [List.mem_cons, List.not_mem_nil, or_false] at hmem
  simpa [isJsonBlank, or_assoc] using hmem

theorem skipBlanks_cons {c : Char} (hc : isJsonBlank c = false) (cs : List Char) :
    skipBlanks (c :: cs) = c :: cs := List.dropWhile_cons_of_neg (by simp [hc])

/-! ### Strings -/

theorem hexValue?_eq {value : Nat} {c : Char} (hc : HexDigit value c) : hexValue? c = some value := by
  have hall : ∀ v : Fin 16, hexValue? v.val.digitChar = some v.val ∧
      hexValue? v.val.digitChar.toUpper = some v.val := by decide
  obtain ⟨hlt, rfl | rfl⟩ := hc
  · exact (hall ⟨value, hlt⟩).1
  · exact (hall ⟨value, hlt⟩).2

theorem exists_hexUnit?_eq {unit : Nat} {cs : List Char} (hunit : WritesUnit unit cs) :
    ∃ a b c d, cs = [a, b, c, d] ∧ hexUnit? a b c d = some unit := by
  cases hunit with
  | digits ha hb hc hd =>
    refine ⟨_, _, _, _, rfl, ?_⟩
    rw [hexUnit?, hexValue?_eq ha, hexValue?_eq hb, hexValue?_eq hc, hexValue?_eq hd]
    rfl

theorem unescape?_eq {mark c : Char} (hmark : (mark, c) ∈ shortEscapes) :
    mark ≠ 'u' ∧ unescape? mark = some c := by
  revert hmark
  simp only [shortEscapes, List.mem_cons, Prod.mk.injEq, List.not_mem_nil, or_false]
  rintro (⟨rfl, rfl⟩ | ⟨rfl, rfl⟩ | ⟨rfl, rfl⟩ | ⟨rfl, rfl⟩ | ⟨rfl, rfl⟩ | ⟨rfl, rfl⟩ | ⟨rfl, rfl⟩ |
    ⟨rfl, rfl⟩) <;> exact ⟨by decide, rfl⟩

/-- A character that is written in front comes first in what is read. -/
theorem stringTail?_append {c : Char} {text : List Char} (hc : WritesChar c text)
    (more : List Char) : stringTail? (text ++ more) =
      (stringTail? more).bind fun (cs, rest) ↦ some (c :: cs, rest) := by
  cases hc with
  | plain hcontrol hquote hescape =>
    rw [List.singleton_append, stringTail?.eq_5 _ _ hquote (fun _ _ _ _ _ h ↦ absurd h hescape)
      (fun _ _ h ↦ absurd h hescape), if_neg (by simp only [hescape, or_false]; omega)]
    rfl
  | short hmark =>
    obtain ⟨hne, hunescape⟩ := unescape?_eq hmark
    rw [List.cons_append, List.singleton_append,
      stringTail?.eq_4 _ _ (fun _ _ _ _ _ h ↦ absurd h hne), hunescape]
    rfl
  | code hunit hwhole =>
    obtain ⟨a, b, c, d, rfl, hvalue⟩ := exists_hexUnit?_eq hunit
    simp only [List.cons_append, List.nil_append]
    rw [stringTail?.eq_3, hvalue, Option.bind_eq_bind, Option.bind_some, if_neg (by omega),
      if_neg (by omega)]
    rfl
  | halves hhigh hfirst hlow hsecond =>
    obtain ⟨a, b, c, d, rfl, hvalue⟩ := exists_hexUnit?_eq hhigh
    obtain ⟨a', b', c', d', rfl, hvalue'⟩ := exists_hexUnit?_eq hlow
    simp only [List.cons_append, List.nil_append]
    rw [stringTail?.eq_3, hvalue, Option.bind_eq_bind, Option.bind_some, if_pos hfirst]
    simp only [hvalue', Option.bind_eq_bind, Option.bind_some, if_pos hsecond]
    rfl

theorem stringTail?_of_writesChars {cs text : List Char} (hcs : WritesChars cs text)
    (rest : List Char) : stringTail? (text ++ '"' :: rest) = some (cs, rest) := by
  induction hcs with
  | nil => rfl
  | cons hc _ ih => rw [List.append_assoc, stringTail?_append hc, ih, Option.bind_some]

/-! ### Numbers -/

/-- What follows does not go on with a number. -/
def Ends (rest : List Char) : Prop :=
  ∀ c ∈ rest.head?, c.isDigit = false ∧ c ≠ '.' ∧ c ≠ 'e' ∧ c ≠ 'E'

theorem digits?_append {cs rest : List Char} (hcs : Digits cs)
    (hrest : ∀ c ∈ rest.head?, c.isDigit = false) : digits? (cs ++ rest) = some (cs, rest) := by
  have hstop : rest.takeWhile Char.isDigit = [] := by
    cases rest with
    | nil => rfl
    | cons c rest => exact List.takeWhile_cons_of_neg (by simp [hrest c rfl])
  rw [digits?, List.takeWhile_append_of_pos hcs.2, hstop, List.append_nil,
    if_neg (by simpa using hcs.1), List.drop_left]

/-- Digits do not start with a sign. -/
theorem Digits.exists_cons {cs : List Char} (hcs : Digits cs) :
    ∃ c rest, cs = c :: rest ∧ c.isDigit = true := by
  obtain ⟨c, rest, rfl⟩ := List.exists_cons_of_ne_nil hcs.1
  exact ⟨c, rest, rfl, hcs.2 c List.mem_cons_self⟩

theorem exponentTail?_append {exponent : Option Int} {text rest : List Char}
    (htext : WritesExponent exponent text) (hrest : Ends rest) :
    exponentTail? (text ++ rest) = some (exponent, rest) := by
  have hstop : ∀ c ∈ rest.head?, c.isDigit = false := fun c hc ↦ (hrest c hc).1
  cases htext with
  | absent =>
    cases rest with
    | nil => rfl
    | cons c rest =>
      obtain ⟨-, -, hlower, hupper⟩ := hrest c rfl
      exact if_neg (by simp [hlower, hupper])
  | unsigned hmark hcs =>
    obtain ⟨c, more, rfl, hc⟩ := hcs.exists_cons
    have hminus : ∀ tail, c :: more ++ rest ≠ '-' :: tail := by
      rintro tail ⟨⟩
      cases hc
    have hplus : ∀ tail, c :: more ++ rest ≠ '+' :: tail := by
      rintro tail ⟨⟩
      cases hc
    rw [List.cons_append, exponentTail?.eq_3 _ _ hminus hplus, if_pos hmark]
    simp only [digits?_append hcs hstop, Option.bind_eq_bind, Option.bind_some]
    rfl
  | plus hmark hcs =>
    rw [List.cons_append, List.cons_append, exponentTail?.eq_2, if_pos hmark]
    simp only [digits?_append hcs hstop, Option.bind_eq_bind, Option.bind_some]
    rfl
  | minus hmark hcs =>
    rw [List.cons_append, List.cons_append, exponentTail?.eq_1, if_pos hmark]
    simp only [digits?_append hcs hstop, Option.bind_eq_bind, Option.bind_some]
    rfl

/-- Neither a digit nor a point comes next behind the digits of a number. -/
theorem WritesExponent.head_append {exponent : Option Int} {text rest : List Char}
    (htext : WritesExponent exponent text) (hrest : Ends rest) :
    ∀ c ∈ (text ++ rest).head?, c.isDigit = false ∧ c ≠ '.' := by
  have hmark : ∀ {mark : Char}, mark = 'e' ∨ mark = 'E' → mark.isDigit = false ∧ mark ≠ '.' := by
    rintro mark (rfl | rfl) <;> decide
  cases htext with
  | absent => exact fun c hc ↦ ⟨(hrest c hc).1, (hrest c hc).2.1⟩
  | unsigned h | plus h | minus h =>
    intro c hc
    obtain rfl := Option.some.inj hc
    exact hmark h

theorem numberTail?_append (negative : Bool) {cs fraction point text rest : List Char}
    {exponent : Option Int} (hcs : WholeDigits cs) (hpoint : WritesFraction fraction point)
    (htext : WritesExponent exponent text) (hrest : Ends rest) :
    numberTail? negative (cs ++ (point ++ (text ++ rest))) =
      some (if fraction.isEmpty ∧ exponent.isNone then
          int (signed negative (digitsNumber cs))
        else decimal negative
          ⟨digitsNumber (cs ++ fraction), exponent.getD 0 - fraction.length⟩, rest) := by
  have hhead := htext.head_append hrest
  have hzero : ¬ (1 < cs.length ∧ cs.head? = some '0') := fun ⟨hlong, hhead⟩ ↦ hcs.2 hlong hhead
  have hexponent := exponentTail?_append htext hrest
  cases hpoint with
  | absent =>
    rw [List.nil_append, numberTail?, digits?_append hcs.1 fun c hc ↦ (hhead c hc).1]
    simp only [Option.bind_eq_bind, Option.bind_some, if_neg hzero]
    generalize text ++ rest = more at hhead hexponent
    split
    case h_1 => exact absurd rfl (hhead '.' rfl).2
    case h_2 =>
      simp only [hexponent, Option.bind_some]
      split <;> rfl
  | digits hfraction =>
    have hdigits := digits?_append hfraction fun c hc ↦ (hhead c hc).1
    rw [List.cons_append, numberTail?, digits?_append hcs.1 (by rintro c ⟨⟩; rfl)]
    simp only [Option.bind_eq_bind, Option.bind_some, if_neg hzero, hdigits, hexponent]
    split <;> rfl

/-! ### Values -/

variable {fuel : Nat} {rest : List Char}

theorem skipBlanks_skipBlanks (cs : List Char) : skipBlanks (skipBlanks cs) = skipBlanks cs := by
  cases h : skipBlanks cs with
  | nil => rfl
  | cons c rest =>
    have hne : cs.dropWhile isJsonBlank ≠ [] := by
      intro hnil
      rw [skipBlanks, hnil] at h
      cases h
    have hhead := List.head_dropWhile_not isJsonBlank hne
    refine skipBlanks_cons ?_ rest
    rwa [List.head_eq_iff_head?_eq_some hne |>.mpr (by rw [← skipBlanks, h]; rfl)] at hhead

theorem readValue?_append_blanks {blanks : List Char} (hblanks : Blanks blanks) (cs : List Char) :
    readValue? fuel (blanks ++ cs) = readValue? fuel cs := by
  cases fuel with
  | zero => rfl
  | succ fuel => rw [readValue?, readValue?, skipBlanks_append hblanks]

theorem readItems?_skipBlanks (cs : List Char) :
    readItems? fuel (skipBlanks cs) = readItems? fuel cs := by
  cases fuel with
  | zero => rfl
  | succ fuel =>
    cases fuel with
    | zero => rfl
    | succ fuel => rw [readItems?, readItems?, readValue?, readValue?, skipBlanks_skipBlanks]

theorem readMembers?_skipBlanks (cs : List Char) :
    readMembers? fuel (skipBlanks cs) = readMembers? fuel cs := by
  cases fuel with
  | zero => rfl
  | succ fuel => rw [readMembers?, readMembers?, skipBlanks_skipBlanks]

theorem isJsonBlank_of_isDigit {c : Char} (hc : c.isDigit = true) : isJsonBlank c = false := by
  simp only [isJsonBlank, Bool.or_eq_false_iff, beq_eq_false_iff_ne]
  refine ⟨⟨⟨?_, ?_⟩, ?_⟩, ?_⟩ <;> (rintro rfl; cases hc)

theorem readValue?_digit {c : Char} (hc : c.isDigit = true) (cs : List Char) :
    readValue? (fuel + 1) (c :: cs) = numberTail? false (c :: cs) := by
  rw [readValue?, skipBlanks_cons (isJsonBlank_of_isDigit hc)]
  split
  case h_8 => rfl
  all_goals
    rename_i heq
    obtain ⟨rfl, -⟩ := List.cons.inj heq
    cases hc

theorem readValue?_sign (negative : Bool) {cs : List Char} (hcs : WholeDigits cs)
    (more : List Char) : readValue? (fuel + 1) (minusSign negative ++ (cs ++ more)) =
      numberTail? negative (cs ++ more) := by
  obtain ⟨c, tail, rfl, hc⟩ := hcs.1.exists_cons
  cases negative with
  | true => rfl
  | false => exact readValue?_digit hc (tail ++ more)

theorem readValue?_number {j : Json} {cs : List Char} (hnumber : WritesNumber j cs)
    (hrest : Ends rest) : readValue? (fuel + 1) (cs ++ rest) = some (j, rest) := by
  cases hnumber with
  | whole negative hcs =>
    rw [List.append_assoc, readValue?_sign negative hcs]
    exact numberTail?_append negative hcs .absent .absent hrest
  | decimal negative hcs hfraction hexponent hsome =>
    rw [List.append_assoc, List.append_assoc, List.append_assoc, readValue?_sign negative hcs,
      numberTail?_append negative hcs hfraction hexponent hrest, if_neg]
    simpa [imp_iff_not_or] using hsome

/-- A value starts with a mark of its own, which closes no array. -/
theorem exists_cons_of_writes {j : Json} {cs : List Char} (h : Writes j cs) :
    ∃ c tail, cs = c :: tail ∧ isJsonBlank c = false ∧ c ≠ ']' := by
  have hsign : ∀ negative {cs : List Char}, WholeDigits cs → ∀ more,
      ∃ c tail, minusSign negative ++ (cs ++ more) = c :: tail ∧ isJsonBlank c = false ∧
        c ≠ ']' := by
    intro negative cs hcs more
    obtain ⟨c, tail, rfl, hc⟩ := hcs.1.exists_cons
    cases negative with
    | true => exact ⟨'-', _, rfl, rfl, by decide⟩
    | false => exact ⟨c, _, rfl, isJsonBlank_of_isDigit hc, by rintro rfl; cases hc⟩
  cases h with
  | number hnumber =>
    cases hnumber with
    | whole negative hcs => simpa only [List.append_nil] using hsign negative hcs []
    | decimal negative hcs => exact hsign negative hcs _
  | _ => exact ⟨_, _, rfl, rfl, by decide⟩

/-- Blanks, the first mark of a value and the rest. -/
theorem skipBlanks_writes {j : Json} {before cs : List Char} (hbefore : Blanks before)
    (h : Writes j cs) (more : List Char) :
    ∃ c tail, skipBlanks (before ++ (cs ++ more)) = c :: tail ∧ c ≠ ']' := by
  obtain ⟨c, tail, rfl, hblank, hne⟩ := exists_cons_of_writes h
  exact ⟨c, tail ++ more, by rw [skipBlanks_append hbefore, List.cons_append, skipBlanks_cons hblank],
    hne⟩

theorem readValue?_bracket {c : Char} {cs tail : List Char} (hcs : skipBlanks cs = c :: tail)
    (hc : c ≠ ']') : readValue? (fuel + 1) ('[' :: cs) =
      (readItems? fuel cs).map fun (items, rest) ↦ (arr items, rest) := by
  rw [← readItems?_skipBlanks cs, readValue?, skipBlanks_cons rfl]
  simp only [hcs]
  split
  case h_1 heq => exact absurd (List.cons.inj heq).1 hc
  case h_2 => rfl

theorem readValue?_brace {cs tail : List Char} (hcs : skipBlanks cs = '"' :: tail) :
    readValue? (fuel + 1) ('\x7b' :: cs) =
      (readMembers? fuel cs).map fun (members, rest) ↦ (obj members, rest) := by
  rw [← readMembers?_skipBlanks cs, readValue?, skipBlanks_cons rfl]
  simp only [hcs]
  rfl

theorem Ends.blanks_append {blanks : List Char} (hrest : Ends rest) (hblanks : Blanks blanks) :
    Ends (blanks ++ rest) := by
  intro c hc
  cases blanks with
  | nil => exact hrest c hc
  | cons blank blanks =>
    obtain rfl := Option.some.inj hc
    have hmem := hblanks blank List.mem_cons_self
    revert hmem
    simp only [List.mem_cons, List.not_mem_nil, or_false]
    rintro (rfl | rfl | rfl | rfl) <;> decide

/-- A value is over where blanks and then a comma or a closing mark follow. -/
theorem Blanks.ends {blanks : List Char} (hblanks : Blanks blanks) (mark : Char)
    (hmark : mark ∈ [',', ']', '\x7d']) (rest : List Char) : Ends (blanks ++ mark :: rest) := by
  refine .blanks_append (fun c hc ↦ ?_) hblanks
  obtain rfl := Option.some.inj hc
  revert hmark
  simp only [List.mem_cons, List.not_mem_nil, or_false]
  rintro (rfl | rfl | rfl) <;> decide

/-- Blanks and the first mark of the first item. -/
theorem skipBlanks_items {items : List Json} {cs : List Char} (h : WritesItems items cs)
    (more : List Char) : ∃ c tail, skipBlanks (cs ++ more) = c :: tail ∧ c ≠ ']' := by
  cases h with
  | last hbefore hitem hafter =>
    simpa only [List.append_assoc] using skipBlanks_writes hbefore hitem _
  | more hbefore hitem hafter hitems =>
    simpa only [List.append_assoc] using skipBlanks_writes hbefore hitem _

/-- Blanks and the quote of the first key. -/
theorem skipBlanks_members {members : List (String × Json)} {cs : List Char}
    (h : WritesMembers members cs) (more : List Char) :
    ∃ tail, skipBlanks (cs ++ more) = '"' :: tail := by
  cases h with
  | last hbefore | more hbefore =>
    rw [List.append_assoc, skipBlanks_append hbefore]
    exact ⟨_, rfl⟩

/-- What the reader makes of the texts that the grammar writes, as far as `fuel` goes. -/
structure ReadsAll (fuel : Nat) : Prop where
  value {j : Json} {cs rest : List Char} (h : Writes j cs) (hfuel : cs.length ≤ fuel)
    (hrest : Ends rest) : readValue? fuel (cs ++ rest) = some (j, rest)
  items {items : List Json} {cs rest : List Char} (h : WritesItems items cs)
    (hfuel : cs.length < fuel) : readItems? fuel (cs ++ ']' :: rest) = some (items, rest)
  members {members : List (String × Json)} {cs rest : List Char} (h : WritesMembers members cs)
    (hfuel : cs.length < fuel) : readMembers? fuel (cs ++ '\x7d' :: rest) = some (members, rest)

/-- A value with blanks around it is read up to the mark that follows. -/
theorem ReadsAll.value_then (hall : ReadsAll fuel) {j : Json} {before cs after : List Char}
    (hbefore : Blanks before) (h : Writes j cs) (hfuel : cs.length ≤ fuel) (hafter : Blanks after)
    (mark : Char) (hmark : mark ∈ [',', ']', '\x7d']) (rest : List Char) :
    readValue? fuel (before ++ (cs ++ (after ++ mark :: rest))) =
      some (j, after ++ mark :: rest) := by
  rw [readValue?_append_blanks hbefore]
  exact hall.value h hfuel (hafter.ends mark hmark rest)

theorem ReadsAll.value_succ (hall : ReadsAll fuel) {j : Json} {cs : List Char} (h : Writes j cs)
    (hfuel : cs.length ≤ fuel + 1) (hrest : Ends rest) :
    readValue? (fuel + 1) (cs ++ rest) = some (j, rest) := by
  cases h with
  | null | true | false => rfl
  | number hnumber => exact readValue?_number hnumber hrest
  | str hcs =>
    rw [List.cons_append, List.append_assoc, readValue?, skipBlanks_cons rfl]
    simp [stringTail?_of_writesChars hcs]
  | noItems hblanks =>
    rw [List.cons_append, List.append_assoc, readValue?, skipBlanks_cons rfl]
    simp only [skipBlanks_append hblanks]
    rfl
  | @items items text hitems =>
    have hshorter : text.length < fuel := by
      simp only [List.length_cons, List.length_append, List.length_nil] at hfuel
      omega
    obtain ⟨c, tail, hstart, hne⟩ := skipBlanks_items hitems (']' :: rest)
    rw [List.cons_append, List.append_assoc, List.singleton_append, readValue?_bracket hstart hne,
      hall.items hitems hshorter, Option.map_some]
  | noMembers hblanks =>
    rw [List.cons_append, List.append_assoc, readValue?, skipBlanks_cons rfl]
    simp only [skipBlanks_append hblanks]
    rfl
  | @members members text hmembers =>
    have hshorter : text.length < fuel := by
      simp only [List.length_cons, List.length_append, List.length_nil] at hfuel
      omega
    obtain ⟨tail, hstart⟩ := skipBlanks_members hmembers ('\x7d' :: rest)
    rw [List.cons_append, List.append_assoc, List.singleton_append, readValue?_brace hstart,
      hall.members hmembers hshorter, Option.map_some]

theorem ReadsAll.items_succ (hall : ReadsAll fuel) {items : List Json} {cs : List Char}
    (h : WritesItems items cs) (hfuel : cs.length < fuel + 1) :
    readItems? (fuel + 1) (cs ++ ']' :: rest) = some (items, rest) := by
  cases h with
  | last hbefore hitem hafter =>
    simp only [List.length_append] at hfuel
    simp only [List.append_assoc, readItems?,
      hall.value_then hbefore hitem (by omega) hafter ']' (by decide), Option.bind_eq_bind,
      Option.bind_some, skipBlanks_append hafter]
    rfl
  | more hbefore hitem hafter hitems =>
    simp only [List.length_append, List.length_cons] at hfuel
    simp only [List.append_assoc, List.cons_append, readItems?,
      hall.value_then hbefore hitem (by omega) hafter ',' (by decide), Option.bind_eq_bind,
      Option.bind_some, skipBlanks_append hafter, skipBlanks_cons (rfl : isJsonBlank ',' = false),
      hall.items hitems (by omega)]
    rfl

theorem ReadsAll.members_succ (hall : ReadsAll fuel) {members : List (String × Json)}
    {cs : List Char} (h : WritesMembers members cs) (hfuel : cs.length < fuel + 1) :
    readMembers? (fuel + 1) (cs ++ '\x7d' :: rest) = some (members, rest) := by
  cases h with
  | last hbefore hname hbehind hinner hvalue hafter =>
    simp only [List.length_append, List.length_cons] at hfuel
    simp only [List.append_assoc, List.cons_append, readMembers?, skipBlanks_append hbefore,
      skipBlanks_cons (rfl : isJsonBlank '"' = false), stringTail?_of_writesChars hname,
      Option.bind_eq_bind, Option.bind_some, skipBlanks_append hbehind,
      skipBlanks_cons (rfl : isJsonBlank ':' = false),
      hall.value_then hinner hvalue (by omega) hafter '\x7d' (by decide), skipBlanks_append hafter,
      String.ofList_toList]
    rfl
  | more hbefore hname hbehind hinner hvalue hafter hmembers =>
    simp only [List.length_append, List.length_cons] at hfuel
    simp only [List.append_assoc, List.cons_append, readMembers?, skipBlanks_append hbefore,
      skipBlanks_cons (rfl : isJsonBlank '"' = false), stringTail?_of_writesChars hname,
      Option.bind_eq_bind, Option.bind_some, skipBlanks_append hbehind,
      skipBlanks_cons (rfl : isJsonBlank ':' = false),
      hall.value_then hinner hvalue (by omega) hafter ',' (by decide), skipBlanks_append hafter,
      String.ofList_toList, skipBlanks_cons (rfl : isJsonBlank ',' = false),
      hall.members hmembers (by omega)]
    rfl

theorem readsAll (fuel : Nat) : ReadsAll fuel := by
  induction fuel with
  | zero =>
    refine ⟨fun h hfuel _ ↦ ?_, fun _ hfuel ↦ absurd hfuel (Nat.not_lt_zero _),
      fun _ hfuel ↦ absurd hfuel (Nat.not_lt_zero _)⟩
    obtain ⟨c, tail, rfl, -⟩ := exists_cons_of_writes h
    exact absurd hfuel (Nat.not_succ_le_zero _)
  | succ fuel hall => exact ⟨hall.value_succ, hall.items_succ, hall.members_succ⟩

/-- The reader takes every text of the grammar as what it writes. -/
theorem parse?_of_writesText {j : Json} {text : String} (h : WritesText j text) :
    parse? text = some j := by
  obtain ⟨before, cs, after, hbefore, hvalue, hafter, htext⟩ := h
  have hlength : cs.length ≤ 2 * text.length + 1 := by
    rw [← String.length_toList, htext, List.length_append, List.length_append]
    omega
  have hnil : Ends [] := by rintro c ⟨⟩
  have hends : Ends after := by simpa only [List.append_nil] using hnil.blanks_append hafter
  have hskip : skipBlanks after = [] := by
    rw [← List.append_nil after, skipBlanks_append hafter]
    rfl
  rw [parse?, htext, readValue?_append_blanks hbefore, (readsAll _).value hvalue hlength hends]
  simp only [hskip, List.isEmpty_nil, if_true]

/-- A text writes one value at most. -/
theorem WritesText.unique {first second : Json} {text : String} (hfirst : WritesText first text)
    (hsecond : WritesText second text) : first = second :=
  Option.some.inj ((parse?_of_writesText hfirst).symm.trans (parse?_of_writesText hsecond))

end FormulaAudit.Json
