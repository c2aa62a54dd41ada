import FormulaAudit.Proofs.RuleBook.Precedence

/-!
Calls that the score weighs twice: a conditional, a logical operator or a catalogued function counts
once as a call and once more for what it is. Such a call alone earns two points, and as points are
not lost in a larger text, a formula that holds one is medium at least where the score decides. Of
the rules for simple formulas only two have room for a parenthesis, so these two are the only ones
that can decide otherwise (`not_simple_of_weighed_call`).
-/

set_option autoImplicit false

namespace FormulaAudit

namespace RuleBook

open Pattern

variable {formula : String} {p : NamedPattern}

/-- The rules for simple formulas that have room for a parenthesis: in the call that they ask for, or
in quoted text. -/
def bracketRules : List String := ["blank_check", "literal_concatenation"]

/-- Every other pattern for simple formulas describes the whole text by classes of characters that
leave the parenthesis out. -/
theorem avoids_bracket_of_mem_simplePatterns (hp : p ∈ simplePatterns)
    (hname : p.name ∉ bracketRules) : ∃ parts, p.pattern = whole parts ∧
      parts.all anchorFree = true ∧ parts.all (avoids '(') = true := by
  have hall : ∀ p ∈ simplePatterns, p.name ∉ bracketRules → ∃ parts, p.pattern = whole parts ∧
      parts.all anchorFree = true ∧ parts.all (avoids '(') = true := by
    simp only [simplePatterns, List.forall_mem_cons]
    refine ⟨?_, ?_, ?_, ?_, ?_, ?_, ?_, ?_, fun p hp ↦ absurd hp List.not_mem_nil⟩
    case refine_4 | refine_5 => exact fun hname ↦ absurd (by decide) hname
    all_goals exact fun _ ↦ ⟨_, rfl, by decide, by decide +kernel⟩
  exact hall p hp hname

theorem mem_bracketRules_of_foundIn (hp : p ∈ simplePatterns) (hfound : p.foundIn formula = true)
    (hbracket : '(' ∈ formula.toList) : p.name ∈ bracketRules := by
  by_contra hname
  obtain ⟨parts, hparts, hfree, havoids⟩ := avoids_bracket_of_mem_simplePatterns hp hname
  rw [NamedPattern.foundIn, foundIn_iff_occursIn, hparts, whole] at hfound
  exact not_mem_of_occursIn_anchored hfree havoids (by decide) hfound hbracket

theorem simple_of_mem_bracketRules : ∀ rule ∈ standard.rules, rule.name ∈ bracketRules →
    rule.category = .simple := by
  decide +kernel

/-- A formula with an opening parenthesis is simple by rule exactly if one of the two rules with
room for it decides. -/
theorem category?_standard_eq_simple_iff_bracketRule (hbracket : '(' ∈ formula.toList) :
    standard.category? formula = some .simple ↔
      ∃ rule, standard.decidingRule? formula = some rule ∧ rule.name ∈ bracketRules := by
  rw [category?, Option.map_eq_some_iff]
  refine exists_congr fun rule ↦ and_congr_right fun hdeciding ↦ ?_
  have hrule := decidingRule?_eq_some_iff.mp hdeciding
  refine ⟨fun hsimple ↦ ?_, simple_of_mem_bracketRules rule hrule.mem⟩
  obtain ⟨p, hp, rfl⟩ := exists_pattern_of_simple hrule.mem hsimple
  exact mem_bracketRules_of_foundIn hp hrule.1 hbracket

end RuleBook

/-- A score of two points or more is not that of a simple formula. -/
theorem Category.ofScore_eq_simple_iff {score : Int} : ofScore score = simple ↔ score < 2 := by
  unfold ofScore
  split
  · simp only [reduceCtorEq, false_iff]
    omega
  · split
    · simp only [reduceCtorEq, false_iff]
      omega
    · simp only [true_iff]
      omega

namespace Classifier

open RuleBook

/-- The functions whose calls earn a point of their own beside the one for a call. -/
def weighedFunctions : List String :=
  ["IF", "AND", "OR", "VLOOKUP", "INDEX", "MATCH", "SUMIF", "COUNTIF", "IFERROR", "SUBTOTAL"]

/-- Each of these calls has two points before anything else is in the formula. -/
theorem two_le_scoreOf_call : ∀ name ∈ weighedFunctions, 2 ≤ scoreOf (name ++ "(") := by
  decide +kernel

/-- Where two points are earned, only the rules can make a formula simple. -/
theorem category_standard_eq_simple_iff_of_score {formula : String} (hscore : 2 ≤ scoreOf formula) :
    standard.category formula = .simple ↔ RuleBook.standard.category? formula = some .simple := by
  have hscored : Category.ofScore (scoreOf formula) ≠ .simple := by
    rw [Ne, Category.ofScore_eq_simple_iff]
    omega
  rw [category_eq, standard]
  cases RuleBook.standard.category? formula with
  | none => simpa using hscored
  | some category => simp

/-- A formula in which one of these functions is called in capital letters has two points or more,
and it is medium or complex unless one of the two rules with room for a parenthesis decides. -/
theorem not_simple_of_weighed_call (formula name : String) (hname : name ∈ weighedFunctions)
    (hcall : name.toList ++ ['('] <:+: formula.toList) :
    2 ≤ scoreOf formula ∧
      ((standard.category formula = .medium ∨ standard.category formula = .complex) ↔
        ¬ ∃ rule, RuleBook.standard.decidingRule? formula = some rule ∧
          rule.name ∈ bracketRules) := by
  have hpart : (name ++ "(").toList <:+: formula.toList := by
    rwa [String.toList_append]
  have hscore : 2 ≤ scoreOf formula :=
    (two_le_scoreOf_call name hname).trans (scoreOf_le_of_isInfix hpart)
  have hbracket : '(' ∈ formula.toList := hcall.subset (by simp)
  refine ⟨hscore, ?_⟩
  rw [← category?_standard_eq_simple_iff_bracketRule hbracket,
    ← category_standard_eq_simple_iff_of_score hscore]
  cases standard.category formula <;> simp

/-- A lookup below a sum, which no rule decides. -/
theorem not_simple_of_weighed_call_lookup :
    "VLOOKUP" ∈ weighedFunctions ∧
      "VLOOKUP".toList ++ ['('] <:+: "SUM(VLOOKUP(A1,B1:C9,2),1)".toList ∧
      2 ≤ scoreOf "SUM(VLOOKUP(A1,B1:C9,2),1)" ∧
      (standard.category "SUM(VLOOKUP(A1,B1:C9,2),1)" = .medium ∨
        standard.category "SUM(VLOOKUP(A1,B1:C9,2),1)" = .complex) := by
  have hname : "VLOOKUP" ∈ weighedFunctions := by decide
  have hcall : "VLOOKUP".toList ++ ['('] <:+: "SUM(VLOOKUP(A1,B1:C9,2),1)".toList :=
    ⟨"SUM(".toList, "A1,B1:C9,2),1)".toList, by decide⟩
  obtain ⟨hscore, hcategory⟩ :=
    not_simple_of_weighed_call "SUM(VLOOKUP(A1,B1:C9,2),1)" "VLOOKUP" hname hcall
  refine ⟨hname, hcall, hscore, hcategory.mpr ?_⟩
  rintro ⟨rule, hrule, -⟩
  have hnone : RuleBook.standard.decidingRule? "SUM(VLOOKUP(A1,B1:C9,2),1)" = none :=
    decidingRule?_eq_none_iff.mpr (by decide +kernel)
  rw [hnone] at hrule
  cases hrule

end Classifier

end FormulaAudit
