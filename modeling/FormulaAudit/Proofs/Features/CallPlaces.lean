import FormulaAudit.Proofs.Features.Places
import FormulaAudit.Proofs.Text.UpperCase
import Mathlib.Data.List.DropRight

/-!
Where the calls of a formula stand. A call is known by its opening parenthesis: the character in
front of it belongs to a name. The names that a formula calls are the longest runs of letters that
end in front of these places, in the order of the places (`functionNamesOf_eq_map`), and the two
counters of calls count places of the same kind (`functionCount_eq_length_callPlaces`,
`length_ifPlaces`).
-/

set_option autoImplicit false

namespace FormulaAudit.Features

/-- An opening parenthesis stands at the place, and a character of a name in front of it. -/
def isCallPlace (inName : Char → Bool) (cs : List Char) : ℕ → Bool
  | 0 => false
  | i + 1 => cs[i]?.any inName && cs[i + 1]? == some '('

/-- An opening parenthesis stands at the place, and the two letters of `IF` in front of it. -/
def isIfPlace (cs : List Char) : ℕ → Bool
  | 0 | 1 => false
  | i + 2 =>
    cs[i]?.any ['i', 'I', '\u0130', '\u0131'].contains && cs[i + 1]?.any ['f', 'F'].contains &&
      cs[i + 2]? == some '('

/-- The places of the calls, from the first to the last. -/
def callPlaces (inName : Char → Bool) (cs : List Char) : List ℕ :=
  (List.range cs.length).filter (isCallPlace inName cs)

def ifPlaces (cs : List Char) : List ℕ := (List.range cs.length).filter (isIfPlace cs)

/-- The longest run of characters of a name that ends in front of a place. -/
def nameBefore (inName : Char → Bool) (cs : List Char) (place : ℕ) : List Char :=
  (cs.take place).rtakeWhile inName

/-! ### The names that are called -/

section Names

variable {inName : Char → Bool}

/-- At the end of what was read, a parenthesis is the place of a call exactly if the run of
characters of a name that was read last is not empty. -/
theorem isCallPlace_length (before cs : List Char) (c : Char) :
    isCallPlace inName (before ++ c :: cs) before.length =
      (decide (c = '(') && decide (before.rtakeWhile inName ≠ [])) := by
  rcases List.eq_nil_or_concat' before with rfl | ⟨front, last, rfl⟩
  · simp [isCallPlace]
  · have hlast : (front ++ [last] ++ c :: cs)[front.length]? = some last := by simp
    have hplace : (front ++ [last] ++ c :: cs)[front.length + 1]? = some c := by
      rw [List.getElem?_append_right (by simp)]
      simp
    rw [List.length_append, List.length_singleton, isCallPlace, hlast, hplace,
      List.rtakeWhile_concat]
    by_cases hname : inName last = true <;> simp [hname, beq_eq_decide]

theorem nameBefore_length (before cs : List Char) :
    nameBefore inName (before ++ cs) before.length = before.rtakeWhile inName := by
  rw [nameBefore, List.take_left']
  rfl

/-- A text is read on behind any place with the run of characters of a name that ends there. -/
theorem calledNames_append (before cs : List Char) :
    calledNames inName [] (before ++ cs) =
      calledNames inName [] before ++ calledNames inName (before.rtakeWhile inName).reverse cs := by
  induction before using List.reverseRecOn generalizing cs with
  | nil => rfl
  | append_singleton before c ih =>
    rw [List.append_assoc, ih, ih [c], List.append_assoc, List.append_cancel_left_eq,
      List.singleton_append, calledNames, calledNames, List.rtakeWhile_concat]
    by_cases hname : inName c = true
    · rw [if_pos hname, if_pos hname, if_pos hname, calledNames, List.nil_append,
        List.reverse_append, List.reverse_singleton, List.singleton_append]
    · rw [if_neg hname, if_neg hname, if_neg hname, List.reverse_nil]
      split <;> rfl

/-- At the end of a text, its last run of characters of a name is called exactly if a parenthesis
follows. -/
theorem calledNames_concat (hbracket : inName '(' = false) (cs : List Char) (c : Char) :
    calledNames inName [] (cs ++ [c]) = calledNames inName [] cs ++
      if c = '(' ∧ cs.rtakeWhile inName ≠ [] then [cs.rtakeWhile inName] else [] := by
  rw [calledNames_append, List.append_cancel_left_eq, calledNames]
  by_cases hname : inName c = true
  · have hne : c ≠ '(' := by
      rintro rfl
      rw [hbracket] at hname
      cases hname
    simp [hname, hne, calledNames]
  · simp [hname, calledNames]

theorem callPlaces_concat (cs : List Char) (c : Char) :
    callPlaces inName (cs ++ [c]) = callPlaces inName cs ++
      if c = '(' ∧ cs.rtakeWhile inName ≠ [] then [cs.length] else [] := by
  have hfront : (List.range cs.length).filter (isCallPlace inName (cs ++ [c])) =
      callPlaces inName cs := by
    refine List.filter_congr fun place hplace ↦ ?_
    have hlt : place < cs.length := List.mem_range.mp hplace
    cases place with
    | zero => rfl
    | succ i =>
      rw [isCallPlace, isCallPlace, List.getElem?_append_left hlt,
        List.getElem?_append_left (Nat.lt_of_succ_lt hlt)]
  rw [callPlaces, List.length_append, List.length_singleton, List.range_succ, List.filter_append,
    hfront, List.append_cancel_left_eq, List.filter_singleton, isCallPlace_length]
  simp

/-- The names that are called, place by place. -/
theorem calledNames_eq_map (hbracket : inName '(' = false) (cs : List Char) :
    calledNames inName [] cs = (callPlaces inName cs).map (nameBefore inName cs) := by
  induction cs using List.reverseRecOn with
  | nil => rfl
  | append_singleton cs c ih =>
    have hfront : (callPlaces inName cs).map (nameBefore inName (cs ++ [c])) =
        (callPlaces inName cs).map (nameBefore inName cs) := by
      refine List.map_congr_left fun place hplace ↦ ?_
      have hlt : place < cs.length := List.mem_range.mp (List.mem_filter.mp hplace).1
      rw [nameBefore, nameBefore, List.take_append_of_le_length hlt.le]
    rw [calledNames_concat hbracket, callPlaces_concat, List.map_append, hfront, ih]
    split
    · rw [List.map_singleton, nameBefore_length]
    · rfl

/-- The place of a call splits the text at its parenthesis. -/
theorem eq_append_of_mem_callPlaces {cs : List Char} {place : ℕ}
    (hplace : place ∈ callPlaces inName cs) :
    cs = cs.take place ++ '(' :: cs.drop (place + 1) := by
  have hcall : isCallPlace inName cs place = true := (List.mem_filter.mp hplace).2
  match place with
  | 0 => cases hcall
  | i + 1 =>
    have hbracket : cs[i + 1]? = some '(' := beq_iff_eq.mp (Bool.and_eq_true_iff.mp hcall).2
    obtain ⟨hlt, hget⟩ := List.getElem?_eq_some_iff.mp hbracket
    rw [← hget, List.getElem_cons_drop, List.take_append_drop]

/-- The character in front of the place of a call belongs to the name. -/
theorem nameBefore_ne_nil {cs : List Char} {place : ℕ} (hplace : place ∈ callPlaces inName cs) :
    nameBefore inName cs place ≠ [] := by
  have hcall : isCallPlace inName cs place = true := (List.mem_filter.mp hplace).2
  match place with
  | 0 => cases hcall
  | i + 1 =>
    obtain ⟨hname, -⟩ := Bool.and_eq_true_iff.mp hcall
    obtain ⟨last, hlast, hin⟩ := (Option.any_eq_true _ _).mp hname
    rw [nameBefore, List.take_add_one, hlast, Option.toList_some, List.rtakeWhile_concat,
      if_pos hin]
    exact List.append_ne_nil_of_right_ne_nil _ (List.cons_ne_nil last [])

theorem of_mem_nameBefore {cs : List Char} {place : ℕ} {c : Char}
    (hc : c ∈ nameBefore inName cs place) : inName c = true := List.mem_rtakeWhile_imp hc

/-- A call is found at the last character of its name, one place in front of its parenthesis. -/
theorem isCallPlace_add_one (cs : List Char) (i : ℕ) :
    isCallPlace inName cs (i + 1) = atCall inName (cs.drop i) := by
  have hget (j : ℕ) : cs[i + j]? = (cs.drop i)[j]? := List.getElem?_drop.symm
  have hhere : cs[i]? = (cs.drop i)[0]? := hget 0
  rw [isCallPlace, hhere, hget]
  match cs.drop i with
  | [] | [_] => simp [atCall]
  | _ :: _ :: _ => rfl

theorem length_callPlaces (inName : Char → Bool) (cs : List Char) :
    (callPlaces inName cs).length = places (atCall inName) cs := by
  rw [callPlaces, ← List.countP_eq_length_filter]
  refine countP_range_eq_places 1 (isCallPlace_add_one cs) ?front ?beyond
  case front =>
    intro place hplace
    obtain rfl : place = 0 := by omega
    rfl
  case beyond =>
    intro place hplace
    match place with
    | 0 => rfl
    | i + 1 =>
      rw [isCallPlace, List.getElem?_eq_none hplace]
      simp

end Names

/-- Calls in capital letters are counted at the last letters of their names. -/
theorem capitalCalls_eq_places (cs : List Char) :
    capitalCalls cs = places (atCall isCapital) cs := by
  rw [capitalCalls, calledNames_eq_map (by decide), List.length_map, length_callPlaces]

/-! ### Letters -/

theorem toNat_lt_of_isLetter {c : Char} (hc : isLetter c = true) : c.toNat < 128 := by
  have hle : c ≤ 'z' := by
    simp only [isLetter, isCapital, Bool.or_eq_true, Bool.and_eq_true, decide_eq_true_eq] at hc
    rcases hc with ⟨-, hc⟩ | ⟨-, hc⟩
    · exact hc.trans (by decide)
    · exact hc
  exact lt_of_le_of_lt (Char.le_def.mp hle) (by decide)

theorem isCapital_toUpper {c : Char} (hc : isLetter c = true) : isCapital c.toUpper = true :=
  Text.forall_ascii (P := fun c ↦ isLetter c = true → isCapital c.toUpper = true)
    (by decide +kernel) (toNat_lt_of_isLetter hc) hc

/-! ### Calls of `IF` -/

/-- A call of `IF` is found at the first of its letters, two places in front of its parenthesis. -/
theorem isIfPlace_add_two (cs : List Char) (i : ℕ) : isIfPlace cs (i + 2) = atIf (cs.drop i) := by
  have hfirst : Text.caselessVariants 'I' = ['i', 'I', '\u0130', '\u0131'] := by decide
  have hsecond : Text.caselessVariants 'F' = ['f', 'F'] := by decide
  have hget (j : ℕ) : cs[i + j]? = (cs.drop i)[j]? := List.getElem?_drop.symm
  have hhere : cs[i]? = (cs.drop i)[0]? := hget 0
  rw [isIfPlace, hhere, hget, hget]
  match cs.drop i with
  | [] | [_] | [_, _] => simp [atIf]
  | first :: second :: bracket :: _ =>
    simp only [atIf, hfirst, hsecond, List.getElem?_cons_zero, List.getElem?_cons_succ,
      Option.any_some]
    rfl

theorem length_ifPlaces (cs : List Char) : (ifPlaces cs).length = ifCalls cs := by
  rw [ifPlaces, ← List.countP_eq_length_filter, ifCalls_eq_places]
  refine countP_range_eq_places 2 (isIfPlace_add_two cs) ?front ?beyond
  case front =>
    intro place hplace
    match place with
    | 0 | 1 => rfl
  case beyond =>
    intro place hplace
    match place with
    | 0 | 1 => rfl
    | i + 2 =>
      rw [isIfPlace, List.getElem?_eq_none hplace]
      simp

/-! ### Counting by place -/

/-- Names are letters, so their upper-case form goes letter by letter. -/
theorem functionNamesOf_eq_map (formula : String) : functionNamesOf formula =
    (callPlaces isLetter formula.toList).map fun place ↦
      String.ofList ((nameBefore isLetter formula.toList place).map Char.toUpper) := by
  rw [functionNamesOf, calledNames_eq_map (by decide), List.map_map]
  refine List.map_congr_left fun place _ ↦ congrArg String.ofList ?_
  exact Text.uppercase_of_ascii fun c hc ↦ toNat_lt_of_isLetter (of_mem_nameBefore hc)

/-- Every capital letter is a letter. -/
theorem length_callPlaces_isCapital_le (cs : List Char) :
    (callPlaces isCapital cs).length ≤ (callPlaces isLetter cs).length := by
  refine (List.monotone_filter_right _ fun place hplace ↦ ?_).length_le
  match place with
  | 0 => cases hplace
  | i + 1 =>
    simp only [isCallPlace, Bool.and_eq_true, Option.any_eq_true] at hplace ⊢
    obtain ⟨⟨c, hc, hcapital⟩, hbracket⟩ := hplace
    exact ⟨⟨c, hc, by rw [isLetter, hcapital, Bool.true_or]⟩, hbracket⟩

/-- Every name is a word of capital letters. -/
theorem capitals_of_mem_functionNamesOf {formula name : String}
    (hname : name ∈ functionNamesOf formula) :
    name.toList ≠ [] ∧ ∀ c ∈ name.toList, 'A' ≤ c ∧ c ≤ 'Z' := by
  rw [functionNamesOf_eq_map] at hname
  obtain ⟨place, hplace, rfl⟩ := List.mem_map.mp hname
  rw [String.toList_ofList]
  refine ⟨fun hempty ↦ nameBefore_ne_nil hplace (List.map_eq_nil_iff.mp hempty), ?_⟩
  intro c hc
  obtain ⟨letter, hletter, rfl⟩ := List.mem_map.mp hc
  have hcapital := isCapital_toUpper (of_mem_nameBefore hletter)
  simpa [isCapital] using hcapital

theorem functionCount_eq_length_callPlaces (formula : String) :
    (ofFormula formula).functionCount = (callPlaces isCapital formula.toList).length := by
  rw [ofFormula, capitalCalls, calledNames_eq_map (by decide), List.length_map]

/-- Each call in capital letters calls a name. -/
theorem functionCount_le (formula : String) :
    (ofFormula formula).functionCount ≤ (ofFormula formula).functionNames.length := by
  have hnames : (ofFormula formula).functionNames.length =
      (callPlaces isLetter formula.toList).length := by
    rw [ofFormula, functionNamesOf_eq_map, List.length_map]
  rw [functionCount_eq_length_callPlaces, hnames]
  exact Int.ofNat_le.mpr (length_callPlaces_isCapital_le formula.toList)

end FormulaAudit.Features
