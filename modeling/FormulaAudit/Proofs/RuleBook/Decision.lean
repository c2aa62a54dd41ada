import FormulaAudit.RuleBook.Standard

/-!
What the standard rules decide. The rules for complex formulas stand in front of those for simple
ones, so a formula is complex by rule as soon as one of the former finds something, and simple by
rule if only the latter do.
-/

set_option autoImplicit false

namespace FormulaAudit.RuleBook

variable {rule : Rule} {formula : String}

/-- The rules for complex formulas are the patterns listed for them. -/
theorem exists_pattern_of_complex (hmem : rule ∈ standard.rules)
    (hcomplex : rule.category = .complex) : ∃ p ∈ complexPatterns, rule = p.rule .complex := by
  rcases List.mem_append.mp hmem with hin | hin
  · obtain ⟨p, hp, rfl⟩ := List.mem_map.mp hin
    exact ⟨p, hp, rfl⟩
  · obtain ⟨p, -, rfl⟩ := List.mem_map.mp hin
    cases hcomplex

theorem exists_pattern_of_simple (hmem : rule ∈ standard.rules) (hsimple : rule.category = .simple) :
    ∃ p ∈ simplePatterns, rule = p.rule .simple := by
  rcases List.mem_append.mp hmem with hin | hin
  · obtain ⟨p, -, rfl⟩ := List.mem_map.mp hin
    cases hsimple
  · obtain ⟨p, hp, rfl⟩ := List.mem_map.mp hin
    exact ⟨p, hp, rfl⟩

theorem decidingRule?_standard (formula : String) : standard.decidingRule? formula =
    ((complexPatterns.find? (·.foundIn formula)).map (·.rule .complex)).or
      ((simplePatterns.find? (·.foundIn formula)).map (·.rule .simple)) := by
  rw [decidingRule?, standard, List.find?_append, List.find?_map, List.find?_map]
  rfl

theorem exists_complexRule_iff :
    (∃ rule ∈ standard.rules, rule.category = .complex ∧ rule.foundIn formula = true) ↔
      ∃ p ∈ complexPatterns, p.foundIn formula = true := by
  constructor
  · rintro ⟨rule, hrule, hcategory, hfound⟩
    obtain ⟨p, hp, rfl⟩ := exists_pattern_of_complex hrule hcategory
    exact ⟨p, hp, hfound⟩
  · rintro ⟨p, hp, hfound⟩
    have hrule : p.rule .complex ∈ standard.rules :=
      List.mem_append_left _ (List.mem_map_of_mem hp)
    exact ⟨p.rule .complex, hrule, rfl, hfound⟩

theorem category?_standard_of_complex (hfound : ∃ p ∈ complexPatterns, p.foundIn formula = true) :
    standard.category? formula = some .complex := by
  obtain ⟨first, hfirst⟩ := Option.isSome_iff_exists.mp (List.find?_isSome.mpr hfound)
  rw [category?, decidingRule?_standard, hfirst]
  rfl

theorem category?_standard_of_not_complex
    (hfound : ¬ ∃ p ∈ complexPatterns, p.foundIn formula = true) :
    standard.category? formula =
      if ∃ p ∈ simplePatterns, p.foundIn formula = true then some .simple else none := by
  have hnone : complexPatterns.find? (·.foundIn formula) = none :=
    List.find?_eq_none.mpr fun p hp hfoundp ↦ hfound ⟨p, hp, hfoundp⟩
  rw [category?, decidingRule?_standard, hnone]
  split
  case isTrue hsimple =>
    obtain ⟨first, hfirst⟩ := Option.isSome_iff_exists.mp (List.find?_isSome.mpr hsimple)
    rw [hfirst]
    rfl
  case isFalse hsimple =>
    have hnone' : simplePatterns.find? (·.foundIn formula) = none :=
      List.find?_eq_none.mpr fun p hp hfoundp ↦ hsimple ⟨p, hp, hfoundp⟩
    rw [hnone']
    rfl

theorem category?_standard_eq_complex_iff : standard.category? formula = some .complex ↔
    ∃ p ∈ complexPatterns, p.foundIn formula = true := by
  refine ⟨fun hcategory ↦ ?_, category?_standard_of_complex⟩
  by_cases hfound : ∃ p ∈ complexPatterns, p.foundIn formula = true
  · exact hfound
  · rw [category?_standard_of_not_complex hfound] at hcategory
    split at hcategory <;> simp at hcategory

theorem category?_standard_eq_simple_iff : standard.category? formula = some .simple ↔
    (∃ p ∈ simplePatterns, p.foundIn formula = true) ∧
      ¬ ∃ p ∈ complexPatterns, p.foundIn formula = true := by
  by_cases hfound : ∃ p ∈ complexPatterns, p.foundIn formula = true
  · rw [category?_standard_of_complex hfound]
    simp [hfound]
  · rw [category?_standard_of_not_complex hfound]
    simp [hfound]

theorem category?_standard_eq_none_iff : standard.category? formula = none ↔
    (¬ ∃ p ∈ simplePatterns, p.foundIn formula = true) ∧
      ¬ ∃ p ∈ complexPatterns, p.foundIn formula = true := by
  by_cases hfound : ∃ p ∈ complexPatterns, p.foundIn formula = true
  · rw [category?_standard_of_complex hfound]
    simp [hfound]
  · rw [category?_standard_of_not_complex hfound]
    simp [hfound]

end FormulaAudit.RuleBook
