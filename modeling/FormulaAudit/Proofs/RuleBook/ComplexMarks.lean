import FormulaAudit.Proofs.RuleBook.Decision
import FormulaAudit.Proofs.RuleBook.Grammar

/-!
What makes a formula complex by rule. `HasComplexMark` says it of one line, without patterns: words
that stand in the line one after the other, in any mixture of cases, a fixed range, braces, or three
operators that join texts. `decided_complex_iff_marked_line` is the main result: the standard rules
decide that a formula is complex exactly if one of its lines has such a mark.
-/

set_option autoImplicit false

namespace FormulaAudit

namespace Grammar

/-- The words that mark a line as complex when all words of a row stand in it in this order. -/
def complexWords : List (List String) :=
  [["SUMPRODUCT"], ["INDEX", "MATCH"], ["VLOOKUP", "VLOOKUP"], ["IF", "IF", "IF"],
    ["IFERROR", "VLOOKUP", "IF"], ["CONCATENATE", "IF"], ["SUM", "IF", "IF"], ["TRIM(MID("],
    ["SEARCH", "MID"], ["IF(AND(", ",", "),", ",IF("]]

/-- A range between two cells whose columns and rows are all fixed. -/
def fixedRange : Language Char := fixedReference * exactly ":" * fixedReference

def HasComplexMark (line : List Char) : Prop :=
  (∃ words ∈ complexWords, HoldsInOrder (words.map inAnyCase) line) ∨
    HoldsInOrder [fixedRange] line ∨ HoldsInOrder [exactly "\x7b", exactly "\x7d"] line ∨
      3 ≤ line.count '&'

theorem holdsInOrder_replicate_iff {c : Char} {text : String} (htext : text.toList = [c]) (n : Nat)
    (line : List Char) :
    HoldsInOrder (List.replicate n (exactly text)) line ↔ n ≤ line.count c := by
  induction n generalizing line with
  | zero => simp [HoldsInOrder]
  | succ n ih =>
    rw [List.replicate_succ]
    constructor
    · rintro ⟨gap, part, rest, rfl, hpart, hrest⟩
      obtain rfl : part = [c] := Eq.trans hpart htext
      have hle := (ih rest).mp hrest
      rw [List.count_append, List.count_append, List.count_singleton_self]
      omega
    · intro hle
      have hmem : c ∈ line := List.count_pos_iff.mp (by omega)
      obtain ⟨gap, rest, rfl, hgap⟩ := List.eq_append_cons_of_mem hmem
      refine ⟨gap, [c], rest, rfl, htext.symm, (ih rest).mpr ?_⟩
      rw [List.count_append, List.count_cons_self, List.count_eq_zero_of_not_mem hgap] at hle
      omega

end Grammar

namespace RuleBook

open Pattern Grammar

theorem staysInLine_caseless {word : String} (hascii : ∀ c ∈ word.toList, c.toNat < 128)
    (hline : '\n' ∉ word.toList) : (caseless word).staysInLine = true := by
  rw [caseless, staysInLine_sequence, List.all_map, List.all_eq_true]
  intro c hc
  have hvariant : '\n' ∉ Text.caselessVariants c := by
    rw [Text.mem_caselessVariants_iff (hascii c hc)]
    rintro (hsame | ⟨_, h | h⟩ | ⟨_, h⟩ | ⟨_, h⟩)
    · obtain rfl : c = '\n' := by simpa using Text.toLower_eq_toLower_iff.mp hsame.symm
      exact hline hc
    all_goals simp at h
  simpa [staysInLine] using hvariant

/-- Every row has a word, and no word holds a line feed or a character outside ASCII. -/
theorem plain_of_mem_complexWords {words : List String} (hwords : words ∈ complexWords) :
    words ≠ [] ∧ ∀ word ∈ words, '\n' ∉ word.toList ∧ ∀ c ∈ word.toList, c.toNat < 128 := by
  have hall : ∀ words ∈ complexWords, words ≠ [] ∧
      ∀ word ∈ words, '\n' ∉ word.toList ∧ ∀ c ∈ word.toList, c.toNat < 128 := by
    simp [complexWords]
  exact hall words hwords

theorem occursIn_complexWords {words : List String} {text : List Char}
    (hwords : words ∈ complexWords) : (inOrder (words.map caseless)).OccursIn text ↔
      ∃ line, IsLine line text ∧ HoldsInOrder (words.map inAnyCase) line := by
  obtain ⟨hne, hplain⟩ := plain_of_mem_complexWords hwords
  have hlanguages : (words.map caseless).map language = words.map inAnyCase := by
    rw [List.map_map]
    exact List.map_congr_left fun word hword ↦ language_caseless (hplain word hword).2
  have hfree : (words.map caseless).all anchorFree = true := by simp
  have hstay : (words.map caseless).all staysInLine = true := by
    rw [List.all_map, List.all_eq_true]
    exact fun word hword ↦ staysInLine_caseless (hplain word hword).2 (hplain word hword).1
  cases words with
  | nil => exact absurd rfl hne
  | cons word words =>
    rw [← hlanguages]
    exact occursIn_inOrder _ _ hfree hstay

theorem occursIn_fixedRange {text : List Char} :
    (sequence [Pattern.fixedReference, literal ":", Pattern.fixedReference]).OccursIn text ↔
      ∃ line, IsLine line text ∧ HoldsInOrder [fixedRange] line := by
  have hlanguage : (sequence [Pattern.fixedReference, literal ":",
      Pattern.fixedReference]).language = fixedRange := by
    rw [language_sequence, fixedRange]
    simp only [List.map_cons, List.map_nil, List.prod_cons, List.prod_nil, mul_one, mul_assoc,
      language_fixedReference, language_literal]
  rw [← hlanguage]
  exact occursIn_inOrder _ [] (by decide) (by decide)

theorem occursIn_braces {text : List Char} :
    (inOrder [literal "\x7b", literal "\x7d"]).OccursIn text ↔
      ∃ line, IsLine line text ∧ HoldsInOrder [exactly "\x7b", exactly "\x7d"] line := by
  rw [← language_literal, ← language_literal]
  exact occursIn_inOrder _ [literal "\x7d"] (by decide) (by decide)

theorem occursIn_ampersands {text : List Char} :
    (seq gap (inOrder [literal "&", literal "&", literal "&"])).OccursIn text ↔
      ∃ line, IsLine line text ∧ 3 ≤ line.count '&' := by
  rw [occursIn_seq_gap (by decide),
    occursIn_inOrder _ [literal "&", literal "&"] (by decide) (by decide)]
  refine exists_congr fun line ↦ and_congr_right fun _ ↦ ?_
  rw [← holdsInOrder_replicate_iff (by decide : "&".toList = ['&']), ← language_literal]
  rfl

/-- The patterns for complex formulas, sorted by what they look for. -/
theorem exists_complexPattern_iff {formula : String} :
    (∃ p ∈ complexPatterns, p.foundIn formula = true) ↔
      (∃ words ∈ complexWords, (inOrder (words.map caseless)).OccursIn formula.toList) ∨
        (sequence [Pattern.fixedReference, literal ":",
          Pattern.fixedReference]).OccursIn formula.toList ∨
        (inOrder [literal "\x7b", literal "\x7d"]).OccursIn formula.toList ∨
        (seq gap (inOrder [literal "&", literal "&", literal "&"])).OccursIn formula.toList := by
  have hcomma : literal "," = caseless "," := rfl
  have hone (p : Pattern) : inOrder [p] = p := rfl
  simp only [complexPatterns, complexWords, List.mem_cons, List.not_mem_nil, or_false,
    exists_eq_or_imp, exists_eq_left, NamedPattern.foundIn, foundIn_iff_occursIn, List.map_cons,
    List.map_nil, hone, hcomma]
  grind

theorem exists_complexPattern_iff_line {formula : String} :
    (∃ p ∈ complexPatterns, p.foundIn formula = true) ↔
      ∃ line, IsLine line formula.toList ∧ HasComplexMark line := by
  rw [exists_complexPattern_iff, occursIn_fixedRange, occursIn_braces, occursIn_ampersands]
  constructor
  · rintro (⟨words, hwords, hoccurs⟩ | ⟨line, hline, hmark⟩ | ⟨line, hline, hmark⟩ |
      ⟨line, hline, hmark⟩)
    · obtain ⟨line, hline, hmark⟩ := (occursIn_complexWords hwords).mp hoccurs
      exact ⟨line, hline, Or.inl ⟨words, hwords, hmark⟩⟩
    · exact ⟨line, hline, Or.inr (Or.inl hmark)⟩
    · exact ⟨line, hline, Or.inr (Or.inr (Or.inl hmark))⟩
    · exact ⟨line, hline, Or.inr (Or.inr (Or.inr hmark))⟩
  · rintro ⟨line, hline, ⟨words, hwords, hmark⟩ | hmark | hmark | hmark⟩
    · exact Or.inl ⟨words, hwords, (occursIn_complexWords hwords).mpr ⟨line, hline, hmark⟩⟩
    · exact Or.inr (Or.inl ⟨line, hline, hmark⟩)
    · exact Or.inr (Or.inr (Or.inl ⟨line, hline, hmark⟩))
    · exact Or.inr (Or.inr (Or.inr ⟨line, hline, hmark⟩))

/-- The rules decide that a formula is complex exactly if one of its lines has a mark of it. -/
theorem decided_complex_iff_marked_line (formula : String) :
    standard.category? formula = some .complex ↔
      ∃ line, IsLine line formula.toList ∧ HasComplexMark line := by
  rw [category?_standard_eq_complex_iff, exists_complexPattern_iff_line]

end RuleBook

end FormulaAudit
