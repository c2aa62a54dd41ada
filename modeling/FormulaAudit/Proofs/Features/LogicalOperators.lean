import FormulaAudit.Proofs.Features.CallPlaces
import FormulaAudit.Score

/-!
Which logical operators a formula seems to call. An operator is looked for with its parenthesis, but
with nothing in front of it, so it is found wherever the name of a called function ends with its
letters, in any case (`mem_logicalOperators_iff`). A formula that calls the operator itself is
always found; one that only calls `XOR` or `FLOOR` is taken for a call of `OR`, and these are the
only formulas that are taken wrongly (`logicalOperators_iff_names_end`).
-/

set_option autoImplicit false

namespace FormulaAudit.Features

variable {cs : List Char} {place : ℕ}

/-- What ends a run of characters of a name ends the text and is made of such characters. -/
theorem suffix_rtakeWhile_iff {inName : Char → Bool} {w : List Char} :
    w <:+ cs.rtakeWhile inName ↔ w <:+ cs ∧ ∀ c ∈ w, inName c = true := by
  constructor
  · intro hw
    exact ⟨hw.trans (List.rtakeWhile_suffix inName cs), fun c hc ↦
      List.mem_rtakeWhile_imp (hw.subset hc)⟩
  · rintro ⟨⟨before, rfl⟩, hname⟩
    induction w using List.reverseRecOn with
    | nil => exact List.nil_suffix
    | append_singleton w c ih =>
      have hc : inName c = true := hname c (by simp)
      rw [← List.append_assoc, List.rtakeWhile_concat, if_pos hc, List.suffix_append_self_iff]
      exact ih fun d hd ↦ hname d (List.mem_append_left [c] hd)

theorem isLetter_of_isCapital_toUpper {c : Char} (hc : c.toNat < 128)
    (hcapital : isCapital c.toUpper = true) : isLetter c = true :=
  Text.forall_ascii (P := fun c ↦ isCapital c.toUpper = true → isLetter c = true)
    (by decide +kernel) hc hcapital

section Operators

variable {op : String}

/-- The operators are words of capital letters, and no character outside ASCII takes part in one. -/
theorem plain_of_mem_logicalOperatorCatalogue (hop : op ∈ logicalOperatorCatalogue) :
    Text.Plain op.toList ∧ op.toList ≠ [] ∧ ∀ c ∈ op.toList, isCapital c = true := by
  have hand : "AND".toList = ['A', 'N', 'D'] := by decide
  have hor : "OR".toList = ['O', 'R'] := by decide
  simp only [logicalOperatorCatalogue, List.mem_cons, List.not_mem_nil, or_false] at hop
  rcases hop with rfl | rfl
  · rw [hand]
    exact ⟨Text.plain_of_table (by decide) (by decide +kernel), by decide,
      List.all_eq_true.mp (by decide)⟩
  · rw [hor]
    exact ⟨Text.plain_of_table (by decide) (by decide +kernel), by decide,
      List.all_eq_true.mp (by decide)⟩

/-- An operator ends the upper-case text in front of a place exactly if it ends the name there. -/
theorem suffix_uppercase_take_iff (hop : op ∈ logicalOperatorCatalogue) :
    op.toList <:+ Text.uppercase (cs.take place) ↔
      op.toList <:+ (nameBefore isLetter cs place).map Char.toUpper := by
  obtain ⟨hplain, -, hcapital⟩ := plain_of_mem_logicalOperatorCatalogue hop
  rw [Text.suffix_uppercase_iff hplain List.prefix_rfl, List.suffix_map_iff]
  refine exists_congr fun w ↦ ?_
  rw [nameBefore, suffix_rtakeWhile_iff, and_assoc, eq_comm (a := op.toList)]
  refine and_congr_right fun _ ↦ and_congr_left fun hupper ↦ ?_
  constructor
  · intro hascii c hc
    have hform : c.toUpper ∈ op.toList := hupper ▸ List.mem_map_of_mem hc
    exact isLetter_of_isCapital_toUpper (hascii c hc) (hcapital _ hform)
  · exact fun hletter c hc ↦ toNat_lt_of_isLetter (hletter c hc)

/-- An operator with its parenthesis occurs in the upper-case text exactly if it ends the name in
front of some parenthesis. -/
theorem isInfix_uppercase_iff (hop : op ∈ logicalOperatorCatalogue) :
    op.toList ++ ['('] <:+: Text.uppercase cs ↔
      ∃ place ∈ callPlaces isLetter cs,
        op.toList <:+ (nameBefore isLetter cs place).map Char.toUpper := by
  constructor
  · rintro ⟨front, rest, hcs⟩
    have hbracket : Text.uppercase cs = (front ++ op.toList) ++ '(' :: rest := by
      rw [← hcs]
      simp
    obtain ⟨before, after, rfl, hbefore⟩ := Text.exists_bracket_of_uppercase hbracket
    have hends : op.toList <:+
        (nameBefore isLetter (before ++ '(' :: after) before.length).map Char.toUpper := by
      rw [← suffix_uppercase_take_iff hop, List.take_left' rfl, hbefore]
      exact List.suffix_append front op.toList
    refine ⟨before.length, List.mem_filter.mpr ⟨by simp, ?_⟩, hends⟩
    have hname : before.rtakeWhile isLetter ≠ [] := by
      rintro hempty
      rw [nameBefore_length, hempty] at hends
      exact (plain_of_mem_logicalOperatorCatalogue hop).2.1 (List.suffix_nil.mp hends)
    rw [isCallPlace_length]
    simp [hname]
  · rintro ⟨place, hplace, hends⟩
    rw [← suffix_uppercase_take_iff hop] at hends
    obtain ⟨front, hfront⟩ := hends
    have hcs := eq_append_of_mem_callPlaces hplace
    have hform : Text.upper '(' = ['('] := by decide
    refine ⟨front, Text.uppercase (cs.drop (place + 1)), ?_⟩
    calc front ++ (op.toList ++ ['(']) ++ Text.uppercase (cs.drop (place + 1))
        = Text.uppercase (cs.take place) ++ ['('] ++ Text.uppercase (cs.drop (place + 1)) := by
          rw [← List.append_assoc, hfront]
      _ = Text.uppercase (cs.take place ++ '(' :: cs.drop (place + 1)) := by
          rw [Text.uppercase_append, Text.uppercase_cons, hform, List.append_assoc]
      _ = Text.uppercase cs := by rw [← hcs]

/-- An operator is found exactly if some called name ends with it. -/
theorem mem_logicalOperators_iff (hop : op ∈ logicalOperatorCatalogue) (formula : String) :
    op ∈ (ofFormula formula).logicalOperators ↔
      ∃ name ∈ (ofFormula formula).functionNames, op.toList <:+ name.toList := by
  simp only [ofFormula, List.mem_filter, hop, true_and, holds_iff_isInfix,
    isInfix_uppercase_iff hop, functionNamesOf_eq_map, List.mem_map, exists_exists_and_eq_and,
    String.toList_ofList]

end Operators

/-- An operator is found exactly if some called name ends with its letters. So one that is called is
found, and one that is found is called unless every name that ends with its letters is a longer one:
the two agree exactly if the operator is called or no name ends with it. -/
theorem logicalOperators_iff_names_end (formula op : String)
    (hop : op ∈ logicalOperatorCatalogue) :
    (op ∈ (ofFormula formula).logicalOperators ↔
      ∃ name ∈ (ofFormula formula).functionNames, op.toList <:+ name.toList) ∧
    (op ∈ (ofFormula formula).functionNames → op ∈ (ofFormula formula).logicalOperators) ∧
    ((op ∈ (ofFormula formula).logicalOperators ↔ op ∈ (ofFormula formula).functionNames) ↔
      op ∈ (ofFormula formula).functionNames ∨
        ∀ name ∈ (ofFormula formula).functionNames, ¬ op.toList <:+ name.toList) := by
  have hfound := mem_logicalOperators_iff hop formula
  have hcalled : op ∈ (ofFormula formula).functionNames →
      op ∈ (ofFormula formula).logicalOperators :=
    fun hname ↦ hfound.mpr ⟨op, hname, List.suffix_rfl⟩
  refine ⟨hfound, hcalled, ?_⟩
  by_cases hname : op ∈ (ofFormula formula).functionNames
  · simp [hname, hcalled hname]
  · rw [hfound]
    simp [hname]

/-- A mixed-case call of `OR` beside one of `XOR`. -/
theorem logicalOperators_iff_names_end_or :
    "OR" ∈ logicalOperatorCatalogue ∧ "OR" ∈ (ofFormula "XOR(A1,oR(B1))").logicalOperators := by
  have hop : "OR" ∈ logicalOperatorCatalogue := by decide
  obtain ⟨-, hcalled, -⟩ := logicalOperators_iff_names_end "XOR(A1,oR(B1))" "OR" hop
  exact ⟨hop, hcalled (by decide +kernel)⟩

/-- A formula that only rounds is taken for a call of `OR`, and by the point for it the score is that
of a medium formula. -/
theorem operator_found_without_call :
    ¬ ("OR" ∈ (ofFormula "FLOOR(A1,1)").logicalOperators ↔
      "OR" ∈ (ofFormula "FLOOR(A1,1)").functionNames) ∧
    (ofFormula "FLOOR(A1,1)").functionNames = ["FLOOR"] ∧
    (ofFormula "FLOOR(A1,1)").breakdown.logicalOperators = 1 ∧
    Category.ofScore (scoreOf "FLOOR(A1,1)") = .medium ∧
    Category.ofScore (scoreOf "FLOOR(A1,1)" - 1) = .simple := by
  decide +kernel

end FormulaAudit.Features
