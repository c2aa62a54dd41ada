import FormulaAudit.Proofs.Classification.Evidence
import FormulaAudit.Proofs.RuleBook.DistinctForms

/-!
What the order of the rules matters for. As long as the rules for complex formulas stand in front of
those for simple ones (`ComplexFirst`), a book decides complex as soon as one of the former finds
something and simple if only the latter do, in whatever order they stand. Since no formula is found
by two rules for simple formulas, even the deciding rule is then the same in every order
(`decision_of_perm`).
-/

set_option autoImplicit false

namespace FormulaAudit

namespace RuleBook

variable {book other : RuleBook} {rule : Rule} {formula : String}

/-- No rule for simple formulas stands in front of one for complex ones. -/
def ComplexFirst (rules : List Rule) : Prop :=
  rules.Pairwise fun earlier later ↦ ¬ (earlier.category = .simple ∧ later.category = .complex)

instance (rules : List Rule) : Decidable (ComplexFirst rules) :=
  inferInstanceAs (Decidable (rules.Pairwise _))

/-- A rule for simple formulas decides only where no rule for complex ones finds anything. -/
theorem Decides.not_simple_of_complex (hrule : book.Decides rule formula)
    (horder : ComplexFirst book.rules) {found : Rule} (hmem : found ∈ book.rules)
    (hfound : found.foundIn formula = true) :
    ¬ (rule.category = .simple ∧ found.category = .complex) := by
  obtain ⟨-, before, after, hrules, hbefore⟩ := hrule
  rw [hrules] at hmem
  rw [ComplexFirst, hrules] at horder
  rcases List.mem_append.mp hmem with hearlier | hlater
  · have hmissed := hbefore found hearlier
    rw [hfound] at hmissed
    cases hmissed
  · have hafter := (List.pairwise_cons.mp (List.pairwise_append.mp horder).2.1).1
    rcases List.mem_cons.mp hlater with rfl | hlater
    · rintro ⟨hsimple, hcomplex⟩
      rw [hsimple] at hcomplex
      cases hcomplex
    · exact hafter found hlater

theorem exists_decides_of_foundIn (hmem : rule ∈ book.rules)
    (hfound : rule.foundIn formula = true) : ∃ first, book.Decides first formula := by
  cases hdeciding : book.decidingRule? formula with
  | some first => exact ⟨first, decidingRule?_eq_some_iff.mp hdeciding⟩
  | none =>
    have hnone := decidingRule?_eq_none_iff.mp hdeciding rule hmem
    rw [hfound] at hnone
    cases hnone

theorem category?_of_decides (hrule : book.Decides rule formula) :
    book.category? formula = some rule.category := by
  rw [category?, decidingRule?_eq_some_iff.mpr hrule]
  rfl

/-- Two books with the same rules, none of them for medium formulas, decide the same categories if
both put the rules for complex formulas first. -/
theorem Decides.exists_of_perm (hrule : book.Decides rule formula)
    (hperm : book.rules.Perm other.rules) (horder : ComplexFirst book.rules)
    (horder' : ComplexFirst other.rules) (hkinds : ∀ r ∈ book.rules, r.category ≠ .medium) :
    ∃ rule', other.Decides rule' formula ∧ rule'.category = rule.category := by
  obtain ⟨rule', hrule'⟩ := exists_decides_of_foundIn (hperm.subset hrule.mem) hrule.1
  have hmem' : rule' ∈ book.rules := hperm.symm.subset hrule'.mem
  have hforward := hrule.not_simple_of_complex horder hmem' hrule'.1
  have hback := hrule'.not_simple_of_complex horder' (hperm.subset hrule.mem) hrule.1
  have hkind := hkinds rule hrule.mem
  have hkind' := hkinds rule' hmem'
  refine ⟨rule', hrule', ?_⟩
  cases hcategory : rule.category <;> cases hcategory' : rule'.category <;> simp_all

theorem category?_eq_of_perm (hperm : book.rules.Perm other.rules)
    (horder : ComplexFirst book.rules) (horder' : ComplexFirst other.rules)
    (hkinds : ∀ r ∈ book.rules, r.category ≠ .medium) (formula : String) :
    book.category? formula = other.category? formula := by
  cases hdeciding : book.decidingRule? formula with
  | some rule =>
    have hrule := decidingRule?_eq_some_iff.mp hdeciding
    obtain ⟨rule', hrule', hcategory⟩ := hrule.exists_of_perm hperm horder horder' hkinds
    rw [category?_of_decides hrule, category?_of_decides hrule', hcategory]
  | none =>
    have hnone : other.decidingRule? formula = none := decidingRule?_eq_none_iff.mpr fun r hr ↦
      decidingRule?_eq_none_iff.mp hdeciding r (hperm.symm.subset hr)
    rw [category?, category?, hdeciding, hnone]

/-! ### The standard rules in another order -/

theorem complexFirst_standard : ComplexFirst standard.rules := by decide +kernel

theorem category_ne_medium_of_mem_standard : ∀ r ∈ standard.rules, r.category ≠ .medium := by
  intro r hr
  rcases List.mem_append.mp hr with hin | hin
  · obtain ⟨p, -, rfl⟩ := List.mem_map.mp hin
    exact Category.noConfusion
  · obtain ⟨p, -, rfl⟩ := List.mem_map.mp hin
    exact Category.noConfusion

/-- No formula is found by two of the standard rules for simple formulas. -/
theorem eq_of_foundIn_simpleRules {first second : Rule} (hfirst : first ∈ standard.rules)
    (hsecond : second ∈ standard.rules) (hsimple : first.category = .simple)
    (hsimple' : second.category = .simple) (hfound : first.foundIn formula = true)
    (hfound' : second.foundIn formula = true) : first = second := by
  obtain ⟨p, hp, rfl⟩ := exists_pattern_of_simple hfirst hsimple
  obtain ⟨q, hq, rfl⟩ := exists_pattern_of_simple hsecond hsimple'
  rw [eq_of_foundIn_simplePatterns hp hq hfound hfound']

/-- Where the verdict is simple, the same rule decides in every order. -/
theorem decidingRule?_eq_of_perm (hperm : book.rules.Perm standard.rules)
    (horder : ComplexFirst book.rules) (hsimple : standard.category? formula = some .simple) :
    book.decidingRule? formula = standard.decidingRule? formula := by
  obtain ⟨rule, hdeciding, hcategory⟩ := Option.map_eq_some_iff.mp hsimple
  have hrule := decidingRule?_eq_some_iff.mp hdeciding
  obtain ⟨rule', hrule', hcategory'⟩ := hrule.exists_of_perm hperm.symm complexFirst_standard horder
    category_ne_medium_of_mem_standard
  have hsame : rule' = rule := eq_of_foundIn_simpleRules (hperm.subset hrule'.mem) hrule.mem
    (hcategory'.trans hcategory) hcategory hrule'.1 hrule.1
  rw [hdeciding, ← hsame]
  exact decidingRule?_eq_some_iff.mpr hrule'

/-- In every order that puts the rules for complex formulas first, the standard rules decide the
same: the category by the rules, the category after all, and for simple formulas the rule as well,
because no formula is found by two of the patterns for simple formulas. -/
theorem decision_of_perm (rules : List Rule) (hperm : rules.Perm standard.rules)
    (horder : ComplexFirst rules) (formula : String) :
    RuleBook.category? ⟨rules⟩ formula = standard.category? formula ∧
    (Classifier.ofBook ⟨rules⟩).category formula = Classifier.standard.category formula ∧
    (standard.category? formula = some .simple →
      RuleBook.decidingRule? ⟨rules⟩ formula = standard.decidingRule? formula) ∧
    ∀ p ∈ simplePatterns, ∀ q ∈ simplePatterns, p.foundIn formula = true →
      q.foundIn formula = true → p = q := by
  have hcategory : RuleBook.category? ⟨rules⟩ formula = standard.category? formula :=
    (category?_eq_of_perm hperm.symm complexFirst_standard horder
      category_ne_medium_of_mem_standard formula).symm
  have hrules : (⟨rules⟩ : RuleBook).rules ≠ [] := by
    rintro rfl
    exact absurd hperm.symm.eq_nil (by decide)
  refine ⟨hcategory, ?_, decidingRule?_eq_of_perm hperm horder, ?_⟩
  · rw [Classifier.category_eq, Classifier.category_eq, Classifier.book_ofBook_of_ne_nil hrules,
      hcategory]
    rfl
  · intro p hp q hq hfoundp hfoundq
    exact eq_of_foundIn_simplePatterns hp hq hfoundp hfoundq

/-- The rules of each kind turned around, and a formula that one of the last of them decides. -/
theorem decision_of_perm_reversed :
    RuleBook.decidingRule? ⟨(complexPatterns.map (·.rule .complex)).reverse ++
      (simplePatterns.map (·.rule .simple)).reverse⟩ "A1*2" = standard.decidingRule? "A1*2" := by
  obtain ⟨-, -, hrule, -⟩ := decision_of_perm ((complexPatterns.map (·.rule .complex)).reverse ++
      (simplePatterns.map (·.rule .simple)).reverse)
    (List.Perm.append (List.reverse_perm _) (List.reverse_perm _)) (by decide +kernel) "A1*2"
  exact hrule (by decide +kernel)

end RuleBook

end FormulaAudit
