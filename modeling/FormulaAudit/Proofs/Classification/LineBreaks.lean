import FormulaAudit.Proofs.Classification.Embedding
import FormulaAudit.Proofs.RuleBook.ComplexMarks

/-!
Line breaks in formulas. Two words that mark a formula as complex do so across any text that holds
no line feed, whatever stands around them; a line feed between them ends the line, so that the rules
no longer see them together. What is complex then is complex for another reason: some line has a
mark of its own, or no rule decides and the score is high enough (`complex_of_lookup_in_line`).
-/

set_option autoImplicit false

namespace FormulaAudit

namespace RuleBook

open Pattern Grammar

theorem mem_inAnyCase_self (word : String) : word.toList ∈ inAnyCase word :=
  List.forall₂_same.mpr fun _ _ ↦ Or.inl rfl

/-- Two words of a row are found across every gap within a line. -/
theorem exists_complexPattern_of_words {first second before gap after : String}
    (hwords : [first, second] ∈ complexWords) (hgap : '\n' ∉ gap.toList) :
    ∃ p ∈ complexPatterns, p.foundIn (before ++ first ++ gap ++ second ++ after) = true := by
  have hfree : (inOrder ([first, second].map caseless)).anchorFree = true := by simp
  have hself : ∀ word ∈ [first, second], word.toList ∈ (caseless word).language := by
    intro word hword
    rw [language_caseless ((plain_of_mem_complexWords hwords).2 word hword).2]
    exact mem_inAnyCase_self word
  have hfirst : first.toList ∈ (caseless first).language := hself first (by simp)
  have hsecond : second.toList ∈ (caseless second).language := hself second (by simp)
  have hstretch : first.toList ++ (gap.toList ++ second.toList) ∈
      (inOrder ([first, second].map caseless)).language :=
    Language.append_mem_mul hfirst
      (Language.append_mem_mul (mem_language_gap.mpr hgap) hsecond)
  have hoccurs : (inOrder ([first, second].map caseless)).OccursIn
      (before ++ first ++ gap ++ second ++ after).toList :=
    (occursIn_iff_isInfix hfree).mpr ⟨_, hstretch, before.toList, after.toList, by simp⟩
  exact exists_complexPattern_iff.mpr (Or.inl ⟨_, hwords, hoccurs⟩)

end RuleBook

namespace Category

theorem ofScore_eq_complex_iff {score : Int} : ofScore score = complex ↔ 5 ≤ score := by
  unfold ofScore
  by_cases hcomplex : 5 ≤ score
  · rw [if_pos hcomplex]
    exact iff_of_true rfl hcomplex
  · rw [if_neg hcomplex]
    refine iff_of_false ?_ hcomplex
    split <;> decide

end Category

namespace Classifier

open RuleBook Grammar

/-- A formula is complex because a line of it is marked, or because no rule decides and the score
is high enough. -/
theorem category_standard_eq_complex_iff {formula : String} : standard.category formula = .complex ↔
    (∃ line, IsLine line formula.toList ∧ HasComplexMark line) ∨
      (RuleBook.standard.category? formula = none ∧ 5 ≤ scoreOf formula) := by
  rw [← exists_complexPattern_iff_line]
  by_cases hfound : ∃ p ∈ complexPatterns, p.foundIn formula = true
  · exact iff_of_true (category_standard_of_complex hfound) (Or.inl hfound)
  · have hdecided := category?_standard_of_not_complex hfound
    rw [category_eq, standard, hdecided]
    split
    · simp [hfound]
    · simp [hfound, Category.ofScore_eq_complex_iff]

/-- Within a line a lookup is never hidden: two words of the four pairs make a formula complex
whatever stands in front of them, between them and behind them, as long as no line feed stands
between them. In general a formula is complex exactly if one of its lines has a mark or, where no
rule decides, the score reaches five. -/
theorem complex_of_lookup_in_line :
    (∀ before gap after : String, '\n' ∉ gap.toList →
      standard.category (before ++ "INDEX" ++ gap ++ "MATCH" ++ after) = .complex ∧
      standard.category (before ++ "VLOOKUP" ++ gap ++ "VLOOKUP" ++ after) = .complex ∧
      standard.category (before ++ "SEARCH" ++ gap ++ "MID" ++ after) = .complex ∧
      standard.category (before ++ "CONCATENATE" ++ gap ++ "IF" ++ after) = .complex) ∧
    ∀ formula : String, standard.category formula = .complex ↔
      (∃ line, IsLine line formula.toList ∧ HasComplexMark line) ∨
        (RuleBook.standard.category? formula = none ∧ 5 ≤ scoreOf formula) := by
  refine ⟨fun before gap after hgap ↦ ?_, fun formula ↦ category_standard_eq_complex_iff⟩
  have hpair : ∀ {first second : String}, [first, second] ∈ complexWords →
      standard.category (before ++ first ++ gap ++ second ++ after) = .complex := fun hwords ↦
    category_standard_of_complex (exists_complexPattern_of_words hwords hgap)
  exact ⟨hpair (by simp [complexWords]), hpair (by simp [complexWords]),
    hpair (by simp [complexWords]), hpair (by simp [complexWords])⟩

theorem complex_of_lookup_in_line_around :
    standard.category ("SUM(A1)\n+" ++ "INDEX" ++ "(B:B," ++ "MATCH" ++ "(A1,\nC:C,0))") =
      .complex := by
  obtain ⟨hindex, -⟩ := complex_of_lookup_in_line.1 "SUM(A1)\n+" "(B:B," "(A1,\nC:C,0))"
    (by decide)
  exact hindex

/-- A line feed between the two words of each pair, and formulas that are complex without it. -/
theorem lookup_hidden_by_line_break :
    standard.category ("" ++ "INDEX" ++ "(B:B,\n" ++ "MATCH" ++ "(A1,C:C,0))") = .medium ∧
    standard.category ("" ++ "VLOOKUP" ++ "(A1,B:C,2)+\n" ++ "VLOOKUP" ++ "(A2,B:C,2)") =
      .medium ∧
    standard.category ("" ++ "SEARCH" ++ "(A1,B1)+\n" ++ "MID" ++ "(A1,1,2)") = .simple ∧
    standard.category ("" ++ "CONCATENATE" ++ "(A1,\n" ++ "IF" ++ "(B1,C1,D1))") = .medium := by
  decide +kernel

end Classifier

end FormulaAudit
