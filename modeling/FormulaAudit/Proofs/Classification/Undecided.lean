import FormulaAudit.Proofs.Classification.Evidence
import FormulaAudit.Proofs.RuleBook.ComplexMarks

/-!
What the score still gets to see. A formula that is left to the score has no line with a mark of
complex formulas, and that bounds what its lines hold (`Unmarked`): few conditionals, few lookups and
few joins of texts. Each counted call of `IF` holds the word, so the count of a formula on one line
stays below the highest tier of the score, and only a line feed lets a formula reach it
(`unmarked_of_scored`).
-/

set_option autoImplicit false

namespace FormulaAudit

open RuleBook Grammar

/-- Each call of `IF` that is counted holds the word, and no two of them overlap. -/
theorem Features.holdsInOrder_ifCalls (cs : List Char) :
    HoldsInOrder (List.replicate (ifCalls cs) (inAnyCase "IF")) cs := by
  fun_induction ifCalls cs with
  | case1 first second bracket cs hcall ih =>
    simp only [Bool.and_eq_true, List.contains_iff_mem] at hcall
    obtain ⟨⟨hfirst, hsecond⟩, -⟩ := hcall
    have hword : [first, second] ∈ inAnyCase "IF" :=
      .cons ((Text.mem_caselessVariants_iff (by decide)).mp hfirst)
        (.cons ((Text.mem_caselessVariants_iff (by decide)).mp hsecond) .nil)
    rw [List.replicate_succ]
    exact ⟨[], [first, second], bracket :: cs, rfl, hword, ih.cons bracket⟩
  | case2 first second bracket cs hcall ih => exact ih.cons first
  | case3 => trivial

/-- The line holds so little of what counts as complex that it has no mark of it. -/
structure Unmarked (line : List Char) : Prop where
  conditionals : ∀ n, HoldsInOrder (List.replicate n (inAnyCase "IF")) line → n ≤ 2
  lookups : ∀ n, HoldsInOrder (List.replicate n (inAnyCase "VLOOKUP")) line → n ≤ 1
  joins : line.count '&' ≤ 2
  indexMatch : ¬ HoldsInOrder [inAnyCase "INDEX", inAnyCase "MATCH"] line

theorem unmarked_of_not_hasComplexMark {line : List Char} (hmark : ¬ HasComplexMark line) :
    Unmarked line := by
  simp only [HasComplexMark, not_or, not_exists, not_and] at hmark
  obtain ⟨hwords, -, -, hjoins⟩ := hmark
  exact {
    conditionals := fun n hn ↦ Nat.le_of_lt_succ <|
      lt_of_holdsInOrder_replicate (hwords ["IF", "IF", "IF"] (by simp [complexWords])) hn
    lookups := fun n hn ↦ Nat.le_of_lt_succ <|
      lt_of_holdsInOrder_replicate (hwords ["VLOOKUP", "VLOOKUP"] (by simp [complexWords])) hn
    joins := by omega
    indexMatch := hwords ["INDEX", "MATCH"] (by simp [complexWords]) }

namespace Classifier

variable {record : Record}

/-- A result with a score is one that no rule decided. -/
theorem category?_of_scored
    (hscore : (standard.classify record).evidence.score?.isSome = true) :
    RuleBook.standard.category? record.formula = none := by
  have hrule : (standard.classify record).evidence.rule? = none := by
    cases hevidence : (standard.classify record).evidence with
    | rule name => simp [hevidence, Evidence.score?] at hscore
    | score points => rfl
  rw [rule?_classify, Option.map_eq_none_iff] at hrule
  exact Option.map_eq_none_iff.mpr hrule

theorem not_hasComplexMark_of_scored
    (hscore : (standard.classify record).evidence.score?.isSome = true) {line : List Char}
    (hline : IsLine line record.formula.toList) : ¬ HasComplexMark line := fun hmark ↦
  (category?_standard_eq_none_iff.mp (category?_of_scored hscore)).2
    (exists_complexPattern_iff_line.mpr ⟨line, hline, hmark⟩)

/-- A line with at most two conditionals counts at most two calls of `IF`. -/
theorem ifCount_le_of_unmarked {formula : String} (hline : Unmarked formula.toList) :
    (Features.ofFormula formula).ifCount ≤ 2 ∧
      (Features.ofFormula formula).breakdown.ifCount ≤ 2 := by
  have hcount : Features.ifCalls formula.toList ≤ 2 :=
    hline.conditionals _ (Features.holdsInOrder_ifCalls _)
  have hle : (Features.ofFormula formula).ifCount ≤ 2 := by
    rw [Features.ofFormula]
    exact Int.ofNat_le.mpr hcount
  refine ⟨hle, ?_⟩
  calc (Features.ofFormula formula).breakdown.ifCount
      ≤ Tier.pointsFor 2 Features.ifCountTiers := Tier.pointsFor_mono (by decide) hle
    _ = 2 := by decide

/-- In every line of a formula that is left to the score, conditionals, lookups and joins of texts
are few. A formula on one line has therefore at most two points for its conditionals, and one with
three of them holds a line feed. -/
theorem unmarked_of_scored (record : Record)
    (hscore : (standard.classify record).evidence.score?.isSome = true) :
    (∀ line, IsLine line record.formula.toList → Unmarked line) ∧
    ('\n' ∉ record.formula.toList →
      (standard.classify record).features.ifCount ≤ 2 ∧
        (standard.classify record).features.breakdown.ifCount ≤ 2) ∧
    ((standard.classify record).features.breakdown.ifCount = 3 → '\n' ∈ record.formula.toList) := by
  have hlines : ∀ line, IsLine line record.formula.toList → Unmarked line := fun line hline ↦
    unmarked_of_not_hasComplexMark (not_hasComplexMark_of_scored hscore hline)
  have hone : '\n' ∉ record.formula.toList →
      (standard.classify record).features.ifCount ≤ 2 ∧
        (standard.classify record).features.breakdown.ifCount ≤ 2 := by
    intro hfeed
    rw [(justified_classify standard record).features]
    exact ifCount_le_of_unmarked (hlines _ (isLine_self hfeed))
  refine ⟨hlines, hone, fun hthree ↦ ?_⟩
  by_contra hfeed
  have hle := (hone hfeed).2
  omega

/-- Three conditionals on three lines, which no rule sees together. -/
def stackedConditionals : Record where
  sheet := "Data"
  cell := "A1"
  formula := "IF(A1,1,\nIF(B1,2,\nIF(C1,3,4)))"

theorem unmarked_of_scored_stacked :
    (standard.classify stackedConditionals).evidence.score?.isSome = true ∧
      (standard.classify stackedConditionals).features.breakdown.ifCount = 3 ∧
      '\n' ∈ stackedConditionals.formula.toList := by
  have hscore : (standard.classify stackedConditionals).evidence.score?.isSome = true := by
    decide +kernel
  have hthree : (standard.classify stackedConditionals).features.breakdown.ifCount = 3 := by
    decide +kernel
  exact ⟨hscore, hthree, (unmarked_of_scored stackedConditionals hscore).2.2 hthree⟩

end Classifier

end FormulaAudit
