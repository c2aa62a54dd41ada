import FormulaAudit.Proofs.Classification.Embedding
import FormulaAudit.Proofs.Features.LetterCase
import FormulaAudit.Proofs.Pattern.LetterCase
import FormulaAudit.Proofs.RuleBook.Grammar

/-!
What a verdict owes to letter case. All rules for complex formulas but the one for absolute ranges
ignore case, and what that one looks for has dollar signs in it. So of two formulas that are the
same up to case, and have no dollar sign, the rules find both complex or neither; and the score goes
by case only as far as calls are counted (`differ_in_calls_of_sameUpToCase`). The rules for simple
formulas do not ignore case, and nothing is said of them here.
-/

set_option autoImplicit false

namespace FormulaAudit

namespace RuleBook

open Pattern Text

variable {formula variant : String} {p : NamedPattern}

/-- All patterns for complex formulas but one are made of words in any case and of signs. -/
theorem ignoresCase_of_mem_complexPatterns (hp : p ∈ complexPatterns)
    (hname : p.name ≠ "absolute_range") : p.pattern.IgnoresCase := by
  revert p
  simp only [complexPatterns, List.forall_mem_cons, List.not_mem_nil, ignoresCase_inOrder,
    ignoresCase_seq, ignoresCase_gap, Ne, not_true_eq_false, false_implies, implies_true, and_true,
    true_and]
  with_reducible (and_intros <;> intro _ <;> and_intros)
  -- What is left is one goal for each word and for each sign.
  all_goals with_reducible first
    | exact ignoresCase_caseless (by simp)
    | exact ignoresCase_literal (by simp)

theorem foundIn_eq_of_sameUpToCase (hp : p ∈ complexPatterns) (hname : p.name ≠ "absolute_range")
    (h : SameUpToCase formula.toList variant.toList) : p.foundIn formula = p.foundIn variant := by
  have hcase : p.pattern.IgnoresCase := ignoresCase_of_mem_complexPatterns hp hname
  rw [Bool.eq_iff_iff, NamedPattern.foundIn, NamedPattern.foundIn, foundIn_iff_occursIn,
    foundIn_iff_occursIn]
  exact occursIn_iff_of_sameUpToCase hcase h

theorem dollar_mem_of_mem_fixedReference {w : List Char} (hw : w ∈ Grammar.fixedReference) :
    '$' ∈ w := by
  obtain ⟨front, hfront, row, -, rfl⟩ := Language.mem_mul.mp hw
  obtain ⟨column, hcolumn, second, -, rfl⟩ := Language.mem_mul.mp hfront
  obtain ⟨first, hfirst, letters, -, rfl⟩ := Language.mem_mul.mp hcolumn
  obtain rfl : first = ['$'] := hfirst
  simp

theorem pattern_of_absoluteRange (hp : p ∈ complexPatterns) (hname : p.name = "absolute_range") :
    p.pattern = sequence [Pattern.fixedReference, literal ":", Pattern.fixedReference] := by
  revert p
  simp [complexPatterns]

/-- An absolute range is found only where there is a dollar sign. -/
theorem dollar_mem_of_absoluteRange (hp : p ∈ complexPatterns) (hname : p.name = "absolute_range")
    (hfound : p.foundIn formula = true) : '$' ∈ formula.toList := by
  rw [NamedPattern.foundIn, foundIn_iff_occursIn,
    occursIn_iff_isInfix (anchorFree_of_mem_complexPatterns hp), pattern_of_absoluteRange hp hname]
    at hfound
  obtain ⟨w, hw, hin⟩ := hfound
  obtain ⟨first, hfirst, rest, -, rfl⟩ := Language.mem_mul.mp hw
  rw [language_fixedReference] at hfirst
  exact hin.subset (List.mem_append_left rest (dollar_mem_of_mem_fixedReference hfirst))

theorem exists_complexPattern_of_sameUpToCase (h : SameUpToCase formula.toList variant.toList)
    (hdollar : '$' ∉ formula.toList) (hfound : ∃ p ∈ complexPatterns, p.foundIn formula = true) :
    ∃ p ∈ complexPatterns, p.foundIn variant = true := by
  obtain ⟨p, hp, hfoundp⟩ := hfound
  have hname : p.name ≠ "absolute_range" := fun hname ↦
    hdollar (dollar_mem_of_absoluteRange hp hname hfoundp)
  exact ⟨p, hp, by rwa [← foundIn_eq_of_sameUpToCase hp hname h]⟩

theorem category?_standard_eq_complex_iff_of_sameUpToCase
    (h : SameUpToCase formula.toList variant.toList) (hdollar : '$' ∉ formula.toList) :
    standard.category? formula = some .complex ↔ standard.category? variant = some .complex := by
  have hdollar' : '$' ∉ variant.toList := by rwa [← h.mem_iff (by decide)]
  rw [category?_standard_eq_complex_iff, category?_standard_eq_complex_iff]
  exact ⟨exists_complexPattern_of_sameUpToCase h hdollar,
    exists_complexPattern_of_sameUpToCase h.symm hdollar'⟩

/-- Formulas that are the same up to case have the same measurements but for the number of calls,
and their scores differ by three points at most. The rules for complex formulas, but for the one for
absolute ranges, find both or neither, so without a dollar sign both are complex by rule or
neither. -/
theorem differ_in_calls_of_sameUpToCase (formula variant : String)
    (h : SameUpToCase formula.toList variant.toList) :
    Features.ofFormula variant = { Features.ofFormula formula with
      functionCount := (Features.ofFormula variant).functionCount } ∧
    (∀ rule ∈ standard.rules, rule.category = .complex → rule.name ≠ "absolute_range" →
      rule.foundIn formula = rule.foundIn variant) ∧
    |(scoreOf formula : ℤ) - scoreOf variant| ≤ 3 ∧
    ('$' ∉ formula.toList →
      (standard.category? formula = some .complex ↔
        standard.category? variant = some .complex)) := by
  refine ⟨Features.ofFormula_eq_of_sameUpToCase h, ?rules, abs_scoreOf_sub_le_of_sameUpToCase h,
    category?_standard_eq_complex_iff_of_sameUpToCase h⟩
  case rules =>
    intro rule hrule hcomplex hname
    obtain ⟨p, hp, rfl⟩ := exists_pattern_of_complex hrule hcomplex
    exact foundIn_eq_of_sameUpToCase hp hname h

/-- Two lookups in capital letters and in small ones: the rule is the same, the number of calls is
not. -/
theorem differ_in_calls_of_sameUpToCase_lookups :
    SameUpToCase "VLOOKUP(A1,VLOOKUP(B1))".toList "vlookup(a1,vlookup(b1))".toList ∧
      '$' ∉ "VLOOKUP(A1,VLOOKUP(B1))".toList ∧
      (Features.ofFormula "VLOOKUP(A1,VLOOKUP(B1))").functionCount = 2 ∧
      (Features.ofFormula "vlookup(a1,vlookup(b1))").functionCount = 0 ∧
      standard.category? "vlookup(a1,vlookup(b1))" = some .complex := by
  have hsame : SameUpToCase "VLOOKUP(A1,VLOOKUP(B1))".toList "vlookup(a1,vlookup(b1))".toList := by
    decide
  have hdollar : '$' ∉ "VLOOKUP(A1,VLOOKUP(B1))".toList := by decide
  obtain ⟨-, -, -, hcomplex⟩ := differ_in_calls_of_sameUpToCase _ _ hsame
  exact ⟨hsame, hdollar, by decide +kernel, by decide +kernel,
    (hcomplex hdollar).mp (by decide +kernel)⟩

/-- With dollar signs in it, a formula may be complex by rule in capital letters only. -/
example : SameUpToCase "$A$1:$B$2".toList "$a$1:$b$2".toList ∧
    standard.category? "$A$1:$B$2" = some .complex ∧ standard.category? "$a$1:$b$2" = none := by
  decide +kernel

end RuleBook

end FormulaAudit
