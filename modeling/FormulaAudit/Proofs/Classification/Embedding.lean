import FormulaAudit.Classification
import FormulaAudit.Proofs.Features.Growth
import FormulaAudit.Proofs.Pattern.Line
import FormulaAudit.Proofs.RuleBook.Decision

/-!
A formula inside a larger text. No pattern for complex formulas looks at the ends of the text, so
what such a pattern finds in a formula it finds in every text around it; and the score grows with
the text. A text around a formula can therefore only fall below it in category when it is, as a
whole, one of the simple forms (`category_le_of_embedding`).
-/

set_option autoImplicit false

namespace FormulaAudit

namespace Category

theorem simple_le (category : Category) : simple ≤ category := Nat.zero_le category.rank

theorem le_complex (category : Category) : category ≤ complex := by
  cases category <;> decide

theorem ofScore_mono {score more : Int} (hle : score ≤ more) : ofScore score ≤ ofScore more := by
  unfold ofScore
  by_cases hcomplex : 5 ≤ score
  · rw [if_pos hcomplex, if_pos (hcomplex.trans hle)]
    exact le_complex complex
  · by_cases hmedium : 2 ≤ score
    · rw [if_neg hcomplex, if_pos hmedium, if_pos (hmedium.trans hle)]
      split <;> decide
    · rw [if_neg hcomplex, if_neg hmedium]
      exact simple_le _

end Category

namespace RuleBook

/-- No pattern for complex formulas is tied to an end of the text. -/
theorem anchorFree_of_mem_complexPatterns {p : NamedPattern} (hp : p ∈ complexPatterns) :
    p.pattern.anchorFree = true := by
  revert p
  simp [complexPatterns, Pattern.anchorFree, Pattern.gap, Pattern.fixedReference,
    Pattern.repeated]

/-- What marks a formula as complex marks every text around it. -/
theorem exists_complexPattern_of_isInfix {formula text : String}
    (hin : formula.toList <:+: text.toList)
    (hfound : ∃ p ∈ complexPatterns, p.foundIn formula = true) :
    ∃ p ∈ complexPatterns, p.foundIn text = true := by
  obtain ⟨p, hp, hfoundp⟩ := hfound
  have hoccurs : p.pattern.OccursIn formula.toList :=
    (Pattern.foundIn_iff_occursIn p.pattern formula).mp hfoundp
  have htext : p.pattern.OccursIn text.toList :=
    hoccurs.of_isInfix (anchorFree_of_mem_complexPatterns hp) hin
  exact ⟨p, hp, (Pattern.foundIn_iff_occursIn p.pattern text).mpr htext⟩

end RuleBook

namespace Classifier

open RuleBook

/-- The rules decide, or else the score does. -/
theorem category_eq (k : Classifier) (formula : String) :
    k.category formula = (k.book.category? formula).getD (.ofScore (scoreOf formula)) := by
  unfold category RuleBook.category? scoreOf
  cases k.book.decidingRule? formula <;> rfl

theorem category_standard_of_complex {formula : String}
    (hfound : ∃ p ∈ complexPatterns, p.foundIn formula = true) :
    standard.category formula = .complex := by
  rw [category_eq, standard, category?_standard_of_complex hfound]
  rfl

/-- Where no rule decides the text, none made the formula complex, and the scores compare. -/
theorem category_le_of_undecided {formula text : String}
    (hin : formula.toList <:+: text.toList) (hnone : RuleBook.standard.category? text = none) :
    standard.category formula ≤ standard.category text := by
  have hplain : ¬ ∃ p ∈ complexPatterns, p.foundIn formula = true := fun hfound ↦
    (category?_standard_eq_none_iff.mp hnone).2 (exists_complexPattern_of_isInfix hin hfound)
  rw [category_eq, category_eq, standard, hnone, category?_standard_of_not_complex hplain]
  split
  · exact Category.simple_le _
  · exact Category.ofScore_mono (Int.ofNat_le.mpr (scoreOf_le_of_isInfix hin))

theorem category_le_of_isInfix {formula text : String} (hin : formula.toList <:+: text.toList)
    (hform : RuleBook.standard.category? text ≠ some .simple) :
    standard.category formula ≤ standard.category text := by
  by_cases hfound : ∃ p ∈ complexPatterns, p.foundIn text = true
  · rw [category_standard_of_complex hfound]
    exact Category.le_complex _
  · refine category_le_of_undecided hin ?_
    rw [category?_standard_of_not_complex hfound] at hform ⊢
    rw [if_neg fun hsimple ↦ hform (if_pos hsimple)]

/-- Embedding a formula in a larger text keeps it complex if a rule made it so, never lowers its
score, and lowers its category only where the text as a whole is one of the simple forms. -/
theorem category_le_of_embedding (before formula after : String) :
    ((∃ rule ∈ RuleBook.standard.rules,
        rule.category = .complex ∧ rule.foundIn formula = true) →
      standard.category (before ++ formula ++ after) = .complex) ∧
    scoreOf formula ≤ scoreOf (before ++ formula ++ after) ∧
    (RuleBook.standard.category? (before ++ formula ++ after) ≠ some .simple →
      standard.category formula ≤ standard.category (before ++ formula ++ after)) := by
  have hin : formula.toList <:+: (before ++ formula ++ after).toList :=
    ⟨before.toList, after.toList, by simp⟩
  refine ⟨?complex, ?score, ?category⟩
  case complex =>
    intro hrule
    have hfound := exists_complexPattern_of_isInfix hin (exists_complexRule_iff.mp hrule)
    exact category_standard_of_complex hfound
  case score => exact scoreOf_le_of_isInfix hin
  case category => exact category_le_of_isInfix hin

theorem category_le_of_embedding_sumproduct :
    standard.category ("A1+" ++ "SUMPRODUCT(B1)" ++ "\n") = .complex ∧
      standard.category "SUMPRODUCT(B1)" ≤
        standard.category ("A1+" ++ "SUMPRODUCT(B1)" ++ "\n") := by
  obtain ⟨hcomplex, -, hcategory⟩ := category_le_of_embedding "A1+" "SUMPRODUCT(B1)" "\n"
  exact ⟨hcomplex (by decide +kernel), hcategory (by decide +kernel)⟩

end Classifier

end FormulaAudit
