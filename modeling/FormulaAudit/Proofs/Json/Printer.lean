import FormulaAudit.Json.Printer
import FormulaAudit.Proofs.Json.Reader

/-!
What the printer writes is in the grammar and writes the value that was printed (`writes_print`). So
whoever follows the grammar reads back from a printed text the value that went into it, and nothing
else (`writesText_toText_iff`); the reader here does so in particular (`parse?_toText`).
-/

set_option autoImplicit false

namespace FormulaAudit.Json

/-! ### Strings -/

theorem writesUnit_hexadecimal {n : Nat} (hn : n < 0x20) : WritesUnit n (Text.hexadecimal 4 n) := by
  have hall : ∀ n : Fin 0x20, Text.hexadecimal 4 n.val =
      ['0', '0', (n.val / 16).digitChar, (n.val % 16).digitChar] := by decide
  have hzero : HexDigit 0 '0' := ⟨by decide, .inl rfl⟩
  have h := WritesUnit.digits hzero hzero ⟨(by omega : n / 16 < 16), .inl rfl⟩
    ⟨(by omega : n % 16 < 16), .inl rfl⟩
  rwa [show ((0 * 16 + 0) * 16 + n / 16) * 16 + n % 16 = n by omega, ← hall ⟨n, hn⟩] at h

theorem writesChar_escapeChar (c : Char) : WritesChar c (escapeChar c) := by
  unfold escapeChar
  split
  case h_8 hquote hescape _ _ _ _ _ =>
    split
    case isTrue hcontrol =>
      have h := WritesChar.code (writesUnit_hexadecimal hcontrol) (.inl (by omega))
      rwa [Char.ofNat_toNat] at h
    case isFalse hcontrol => exact .plain (by omega) hquote hescape
  all_goals exact .short (by decide)

theorem writesChars_flatMap (cs : List Char) : WritesChars cs (cs.flatMap escapeChar) := by
  induction cs with
  | nil => exact .nil
  | cons c cs ih => exact .cons (writesChar_escapeChar c) ih

/-! ### Numbers -/

theorem head?_toDigits {n : Nat} (hn : n ≠ 0) : (Nat.toDigits 10 n).head? ≠ some '0' := by
  induction n using Nat.strongRecOn with
  | ind n ih =>
    by_cases hlt : n < 10
    · have hall : ∀ n : Fin 10, n.val ≠ 0 → n.val.digitChar ≠ '0' := by decide
      rw [Nat.toDigits_of_lt_base hlt]
      exact fun h ↦ hall ⟨n, hlt⟩ hn (Option.some.inj h)
    · rw [Nat.toDigits_of_base_le (by decide) (by omega),
        List.head?_append_of_ne_nil _ Nat.toDigits_ne_nil]
      exact ih (n / 10) (by omega) (by omega)

theorem wholeDigits_toDigits (n : Nat) : WholeDigits (Nat.toDigits 10 n) := by
  refine ⟨⟨Nat.toDigits_ne_nil, fun c hc ↦ Nat.isDigit_of_mem_toDigits (by decide) (by decide) hc⟩, ?_⟩
  intro hlong
  refine head?_toDigits ?_
  rintro rfl
  exact absurd hlong (by decide)

theorem printInt_eq (n : Int) :
    printInt n = minusSign (decide (n < 0)) ++ Nat.toDigits 10 n.natAbs := by
  simp only [printInt, minusSign, decide_eq_true_eq]

theorem digitsNumber_toDigits (n : Nat) : digitsNumber (Nat.toDigits 10 n) = n :=
  Nat.ofDigitChars_ten_toDigits

theorem writesNumber_printInt (n : Int) : WritesNumber (int n) (printInt n) := by
  have h := WritesNumber.whole (decide (n < 0)) (wholeDigits_toDigits n.natAbs)
  rw [digitsNumber_toDigits, ← printInt_eq] at h
  have hsign : (if decide (n < 0) then -(n.natAbs : Int) else n.natAbs) = n := by
    by_cases hn : n < 0
    · simp only [hn, decide_true, if_true]
      omega
    · simp only [hn, decide_false, Bool.false_eq_true, if_false]
      omega
  rwa [hsign] at h

theorem writesExponent_printInt (n : Int) : WritesExponent (some n) ('e' :: printInt n) := by
  have hdigits := (wholeDigits_toDigits n.natAbs).1
  by_cases hn : n < 0
  · have h := WritesExponent.minus (.inl rfl) hdigits
    rw [digitsNumber_toDigits, show -(n.natAbs : Int) = n by omega] at h
    simpa [printInt, hn] using h
  · have h := WritesExponent.unsigned (.inl rfl) hdigits
    rw [digitsNumber_toDigits, show (n.natAbs : Int) = n by omega] at h
    simpa [printInt, hn] using h

/-! ### Values -/

theorem blanks_nil : Blanks [] := nofun

theorem blanks_space : Blanks [' '] := by
  intro c hc
  rw [List.mem_singleton.mp hc]
  decide

theorem blanks_newLine (level : Nat) : Blanks (newLine level) := by
  intro c hc
  rcases List.mem_cons.mp hc with rfl | hc
  · decide
  · rw [(List.mem_replicate.mp hc).2]
    decide

theorem writesItems_print (level : Nat) {after : List Char} (hafter : Blanks after) {item : Json}
    {items : List Json} (hitem : Writes item (print level item))
    (hitems : ∀ item ∈ items, Writes item (print level item)) :
    WritesItems (item :: items)
      (newLine level ++ (print level item ++ (printItems level items ++ after))) := by
  induction items generalizing item with
  | nil => exact .last (blanks_newLine level) hitem hafter
  | cons next items ih =>
    obtain ⟨hnext, hitems⟩ := List.forall_mem_cons.mp hitems
    have h := WritesItems.more (blanks_newLine level) hitem blanks_nil (ih hnext hitems)
    simpa [printItems] using h

theorem writesMembers_print (level : Nat) {after : List Char} (hafter : Blanks after)
    (key : String) {value : Json} {members : List (String × Json)}
    (hvalue : Writes value (print level value))
    (hmembers : ∀ member ∈ members, Writes member.2 (print level member.2)) :
    WritesMembers ((key, value) :: members)
      (newLine level ++ (printString key ++ ':' :: ' ' :: (print level value ++
        (printMembers level members ++ after)))) := by
  induction members generalizing key value with
  | nil =>
    have h := WritesMembers.last (blanks_newLine level) (writesChars_flatMap key.toList) blanks_nil
      blanks_space hvalue hafter
    simpa [printString, printMembers] using h
  | cons next members ih =>
    obtain ⟨hnext, hmembers⟩ := List.forall_mem_cons.mp hmembers
    have h := WritesMembers.more (blanks_newLine level) (writesChars_flatMap key.toList) blanks_nil
      blanks_space hvalue blanks_nil (ih next.1 hnext hmembers)
    simpa [printString, printMembers] using h

mutual

theorem writes_print (level : Nat) : (j : Json) → Writes j (print level j)
  | null => .null
  | bool true => .true
  | bool false => .false
  | int n => .number (writesNumber_printInt n)
  | decimal negative d => by
    have h := WritesNumber.decimal negative (wholeDigits_toDigits d.digits) .absent
      (writesExponent_printInt d.exponent) (.inr nofun)
    simpa [print, minusSign, digitsNumber_toDigits] using Writes.number h
  | str s => .str (writesChars_flatMap s.toList)
  | arr [] => .noItems blanks_nil
  | arr (item :: items) => by
    have h := writesItems_print (level + 1) (blanks_newLine level) (writes_print (level + 1) item)
      (forall_writes_print (level + 1) items)
    simpa [print] using Writes.items h
  | obj [] => .noMembers blanks_nil
  | obj ((key, value) :: members) => by
    have h := writesMembers_print (level + 1) (blanks_newLine level) key
      (writes_print (level + 1) value) (forall_writes_print_members (level + 1) members)
    simpa [print] using Writes.members h

theorem forall_writes_print (level : Nat) :
    (items : List Json) → ∀ item ∈ items, Writes item (print level item)
  | [] => nofun
  | item :: items =>
    List.forall_mem_cons.mpr ⟨writes_print level item, forall_writes_print level items⟩

theorem forall_writes_print_members (level : Nat) : (members : List (String × Json)) →
    ∀ member ∈ members, Writes member.2 (print level member.2)
  | [] => nofun
  | (_, value) :: members =>
    List.forall_mem_cons.mpr ⟨writes_print level value, forall_writes_print_members level members⟩

end

theorem writesText_toText (j : Json) : WritesText j j.toText := by
  refine ⟨[], print 0 j, [], blanks_nil, writes_print 0 j, blanks_nil, ?_⟩
  rw [toText, String.toList_ofList, List.nil_append, List.append_nil]

theorem parse?_toText (j : Json) : parse? j.toText = some j :=
  parse?_of_writesText (writesText_toText j)

theorem writesText_toText_iff (j other : Json) : WritesText other j.toText ↔ other = j :=
  ⟨fun h ↦ h.unique (writesText_toText j), fun h ↦ h ▸ writesText_toText other⟩

end FormulaAudit.Json
