import FormulaAudit.Proofs.Classification.Embedding

/-!
The evidence of a classified record. `Justified` says what the evidence owes the rule book: a rule
is named exactly if the book has one that finds something, and then it is the first of them and
decides the category; a score is given exactly if no rule finds anything, and then it is the sum of
the points that the seven features of the formula earn, and the category goes by it. A record is
classified in this way by every book, and it has the category that its formula alone is given
(`classify_justified`).

The classifier made from a book goes by that book, and names its rules only, exactly if the book has
rules (`ofBook_goesBy_iff`): one without rules does not leave every formula to the score.
-/

set_option autoImplicit false

namespace FormulaAudit

namespace RuleBook

variable {book : RuleBook} {rule : Rule} {formula : String}

/-- The rule finds something in the formula, and no rule in front of it does. -/
def Decides (book : RuleBook) (rule : Rule) (formula : String) : Prop :=
  rule.foundIn formula = true ∧ ∃ before after, book.rules = before ++ rule :: after ∧
    ∀ earlier ∈ before, earlier.foundIn formula = false

theorem decidingRule?_eq_some_iff :
    book.decidingRule? formula = some rule ↔ book.Decides rule formula := by
  rw [decidingRule?, List.find?_eq_some_iff_append, Decides]
  simp only [Bool.not_eq_true']

theorem decidingRule?_eq_none_iff :
    book.decidingRule? formula = none ↔ ∀ rule ∈ book.rules, rule.foundIn formula = false := by
  rw [decidingRule?, List.find?_eq_none]
  simp only [Bool.not_eq_true]

theorem Decides.mem (h : book.Decides rule formula) : rule ∈ book.rules := by
  obtain ⟨-, before, after, hrules, -⟩ := h
  rw [hrules]
  exact List.mem_append_right before List.mem_cons_self

end RuleBook

/-- The result is about the source, and its evidence is what the book and the formula give. -/
structure Classified.Justified (r : Classified) (book : RuleBook) (source : Record) : Prop where
  record : r.record = source
  features : r.features = Features.ofFormula source.formula
  rule_xor_score : Xor (r.evidence.rule?.isSome = true) (r.evidence.score?.isSome = true)
  rule_iff : r.evidence.rule?.isSome = true ↔
    ∃ rule ∈ book.rules, rule.foundIn source.formula = true
  rule {name : String} : r.evidence.rule? = some name →
    ∃ rule, book.Decides rule source.formula ∧ rule.name = name ∧ rule.category = r.category
  score_iff : r.evidence.score?.isSome = true ↔
    ∀ rule ∈ book.rules, rule.foundIn source.formula = false
  score {points : ℕ} : r.evidence.score? = some points →
    points = scoreOf source.formula ∧ r.category = .ofScore points ∧
      let b := (Features.ofFormula source.formula).breakdown
      points = b.functionCount + b.ifCount + b.crossSheet + b.length + b.complexFunctions
        + b.logicalOperators + b.commaCount

namespace Classifier

open RuleBook

variable {k : Classifier} {record : Record}

theorem classify_of_decides {rule : Rule} (hrule : k.book.Decides rule record.formula) :
    k.classify record = {
      record := record
      category := rule.category
      features := Features.ofFormula record.formula
      evidence := .rule rule.name } := by
  unfold classify
  rw [decidingRule?_eq_some_iff.mpr hrule]

theorem classify_of_undecided (hnone : ∀ rule ∈ k.book.rules, rule.foundIn record.formula = false) :
    k.classify record = {
      record := record
      category := .ofScore (scoreOf record.formula)
      features := Features.ofFormula record.formula
      evidence := .score (scoreOf record.formula) } := by
  unfold classify
  rw [decidingRule?_eq_none_iff.mpr hnone]
  rfl

theorem justified_classify (k : Classifier) (record : Record) :
    (k.classify record).Justified k.book record := by
  cases hdeciding : k.book.decidingRule? record.formula with
  | some rule =>
    have hrule := decidingRule?_eq_some_iff.mp hdeciding
    have hfound := hrule.1
    rw [classify_of_decides hrule]
    exact {
      record := rfl
      features := rfl
      rule_xor_score := Or.inl ⟨rfl, Bool.false_ne_true⟩
      rule_iff := iff_of_true rfl ⟨rule, hrule.mem, hfound⟩
      rule := fun hname ↦ ⟨rule, hrule, Option.some.inj hname, rfl⟩
      score_iff := iff_of_false Bool.false_ne_true fun hnone ↦ by
        simp [hnone rule hrule.mem] at hfound
      score := fun hpoints ↦ absurd hpoints (by simp [Evidence.score?]) }
  | none =>
    have hnone := decidingRule?_eq_none_iff.mp hdeciding
    rw [classify_of_undecided hnone]
    exact {
      record := rfl
      features := rfl
      rule_xor_score := Or.inr ⟨rfl, Bool.false_ne_true⟩
      rule_iff := iff_of_false Bool.false_ne_true fun ⟨rule, hrule, hfound⟩ ↦ by
        simp [hnone rule hrule] at hfound
      rule := fun hname ↦ absurd hname (by simp [Evidence.rule?])
      score_iff := iff_of_true rfl hnone
      score := fun hpoints ↦ by
        obtain rfl := Option.some.inj hpoints
        exact ⟨rfl, rfl, rfl⟩ }

theorem category_classify (k : Classifier) (record : Record) :
    (k.classify record).category = k.category record.formula := by
  cases hdeciding : k.book.decidingRule? record.formula with
  | some rule =>
    have hrule := decidingRule?_eq_some_iff.mp hdeciding
    rw [classify_of_decides hrule, category_eq, category?, hdeciding]
    rfl
  | none =>
    have hnone := decidingRule?_eq_none_iff.mp hdeciding
    rw [classify_of_undecided hnone, category_eq, category?, hdeciding]
    rfl

theorem rule?_classify (k : Classifier) (record : Record) :
    (k.classify record).evidence.rule? = (k.book.decidingRule? record.formula).map (·.name) := by
  cases hdeciding : k.book.decidingRule? record.formula with
  | some rule =>
    rw [classify_of_decides (decidingRule?_eq_some_iff.mp hdeciding)]
    rfl
  | none =>
    rw [classify_of_undecided (decidingRule?_eq_none_iff.mp hdeciding)]
    rfl

/-- What the standard rules decide by themselves is what the standard classifier says. -/
theorem category_standard_of_decided {formula : String} {category : Category}
    (hdecided : RuleBook.standard.category? formula = some category) :
    standard.category formula = category := by
  rw [category_eq, standard, hdecided]
  rfl

theorem ofBook_of_nil {book : RuleBook} (hbook : book.rules = []) : ofBook book = .standard := by
  rw [ofBook, RuleBook.isEmpty, hbook]
  rfl

theorem book_ofBook_nil {book : RuleBook} (hbook : book.rules = []) :
    (ofBook book).book = .standard := congrArg Classifier.book (ofBook_of_nil hbook)

theorem book_ofBook_of_ne_nil {book : RuleBook} (hbook : book.rules ≠ []) :
    (ofBook book).book = book := by
  rw [ofBook, RuleBook.isEmpty, List.isEmpty_eq_false_iff.mpr hbook]
  rfl

/-- A record and its formula are classified alike, with the evidence that the rules of the
classifier give: those of the book, or the standard ones if the book has none. By the standard book,
what the rules decide by themselves agrees with the classifier, and so does the rule. -/
theorem classify_justified (book : RuleBook) (record : Record) :
    ((ofBook book).classify record).category = (ofBook book).category record.formula ∧
    ((ofBook book).classify record).Justified (ofBook book).book record ∧
    (book.rules = [] → (ofBook book).book = .standard) ∧
    (book.rules ≠ [] → (ofBook book).book = book) ∧
    (∀ category, RuleBook.standard.category? record.formula = some category →
      standard.category record.formula = category) ∧
    (RuleBook.standard.decidingRule? record.formula).map (·.name) =
      (standard.classify record).evidence.rule? :=
  ⟨category_classify _ record, justified_classify _ record, book_ofBook_nil, book_ofBook_of_ne_nil,
    fun _ ↦ category_standard_of_decided, (rule?_classify standard record).symm⟩

/-- A formula that no standard rule decides. Each of its features earns points. -/
def guardedLookup : Record :=
  { sheet := "Data", cell := "A2",
    formula := "IF(AND(A1>0,B1>0),VLOOKUP(A1,Data!A1:B9,2,FALSE),0)" }

/-- A book without rules. A standard rule decides the first formula; the second has the score that
its features add up to, and that makes it complex. -/
theorem classify_justified_reference :
    (ofBook ⟨[]⟩).book = .standard ∧
      ((ofBook ⟨[]⟩).classify { sheet := "Data", cell := "A1", formula := "B1" }).category =
        .simple ∧ standard.category "B1" = .simple ∧
      ((ofBook ⟨[]⟩).classify guardedLookup).evidence.score? = some (2 + 1 + 1 + 1 + 1 + 1 + 2) ∧
      ((ofBook ⟨[]⟩).classify guardedLookup).evidence.rule? = none ∧
      ((ofBook ⟨[]⟩).classify guardedLookup).category = .complex := by
  obtain ⟨hcategory, -, hempty, -, hdecided, -⟩ := classify_justified ⟨[]⟩
    { sheet := "Data", cell := "A1", formula := "B1" }
  refine ⟨hempty rfl, hcategory.trans (by decide +kernel), hdecided .simple (by decide +kernel), ?_⟩
  obtain ⟨-, hjustified, -⟩ := classify_justified ⟨[]⟩ guardedLookup
  have hnone : ∀ rule ∈ (ofBook ⟨[]⟩).book.rules, rule.foundIn guardedLookup.formula = false := by
    decide +kernel
  obtain ⟨points, hpoints⟩ := Option.isSome_iff_exists.mp (hjustified.score_iff.mpr hnone)
  obtain ⟨-, hofScore, hsum⟩ := hjustified.score hpoints
  have hnine : points = 2 + 1 + 1 + 1 + 1 + 1 + 2 := hsum.trans (by decide +kernel)
  refine ⟨hpoints.trans (congrArg some hnine), Option.not_isSome_iff_eq_none.mp fun hrule ↦ ?_, ?_⟩
  · obtain ⟨rule, hmem, hfound⟩ := hjustified.rule_iff.mp hrule
    exact Bool.false_ne_true ((hnone rule hmem).symm.trans hfound)
  · rw [hofScore, hnine]
    rfl

/-! ### The book that a classifier is made from -/

/-- A formula has the category that the rules of the book decide, or that of its score if they decide
none. -/
def GoesBy (k : Classifier) (book : RuleBook) : Prop :=
  ∀ formula, k.category formula = (book.category? formula).getD (.ofScore (scoreOf formula))

/-- What is named as evidence is a rule of the book. -/
def NamesRulesOf (k : Classifier) (book : RuleBook) : Prop :=
  ∀ record name, (k.classify record).evidence.rule? = some name →
    ∃ rule ∈ book.rules, rule.name = name

theorem goesBy_book (k : Classifier) : k.GoesBy k.book := k.category_eq

theorem namesRulesOf_book (k : Classifier) : k.NamesRulesOf k.book := by
  intro record name hname
  obtain ⟨rule, hrule, hnamed, -⟩ := (k.justified_classify record).rule hname
  exact ⟨rule, hrule.mem, hnamed⟩

/-- A formula that a standard rule decides against its score. -/
def sumOfProducts : String := "SUMPRODUCT(A1)"

theorem category_sumOfProducts :
    standard.category sumOfProducts = .complex ∧
      Category.ofScore (scoreOf sumOfProducts) = .simple := by
  decide +kernel

theorem rule?_sumOfProducts (sheet cell : String) :
    (standard.classify { sheet, cell, formula := sumOfProducts }).evidence.rule? =
      some "sumproduct" := by
  have hrule : (RuleBook.standard.decidingRule? sumOfProducts).map (·.name) = some "sumproduct" := by
    decide +kernel
  exact (rule?_classify standard _).trans hrule

/-- A classifier that is made from a book goes by the book exactly if the book has rules, and then
only does it keep from naming rules that are not there. Without rules it is the standard one. -/
theorem ofBook_goesBy_iff (book : RuleBook) :
    ((ofBook book).GoesBy book ↔ book.rules ≠ []) ∧
      ((ofBook book).NamesRulesOf book ↔ book.rules ≠ []) ∧
      ofBook ⟨[]⟩ = .standard := by
  have hfollows : book.rules ≠ [] → (ofBook book).GoesBy book ∧ (ofBook book).NamesRulesOf book := by
    intro hbook
    have hgoes := (ofBook book).goesBy_book
    have hnames := (ofBook book).namesRulesOf_book
    rw [book_ofBook_of_ne_nil hbook] at hgoes hnames
    exact ⟨hgoes, hnames⟩
  refine ⟨⟨?category, fun hbook ↦ (hfollows hbook).1⟩, ⟨?rule, fun hbook ↦ (hfollows hbook).2⟩,
    ofBook_of_nil rfl⟩
  case category =>
    -- The score of the formula would make it simple, and the standard rule makes it complex.
    intro hgoes hbook
    obtain ⟨hcomplex, hsimple⟩ := category_sumOfProducts
    have hscored := hgoes sumOfProducts
    rw [ofBook_of_nil hbook, hcomplex, RuleBook.category?, RuleBook.decidingRule?, hbook] at hscored
    exact absurd (hscored.trans hsimple) (by decide)
  case rule =>
    intro hnames hbook
    obtain ⟨rule, hrule, -⟩ := hnames { sheet := "", cell := "", formula := sumOfProducts } _
      (by rw [ofBook_of_nil hbook]; exact rule?_sumOfProducts "" "")
    rw [hbook] at hrule
    exact List.not_mem_nil hrule

/-- A book without rules decides nothing, the score of the formula is that of a simple one, and yet
the classifier made from the book finds it complex and names a rule. -/
theorem rule_named_without_rules :
    RuleBook.category? ⟨[]⟩ sumOfProducts = none ∧
      Category.ofScore (scoreOf sumOfProducts) = .simple ∧
      (ofBook ⟨[]⟩).category sumOfProducts = .complex ∧
      ((ofBook ⟨[]⟩).classify { sheet := "S", cell := "A1", formula := sumOfProducts }).evidence.rule? =
        some "sumproduct" :=
  ⟨rfl, category_sumOfProducts.2, category_sumOfProducts.1, rule?_sumOfProducts "S" "A1"⟩

end Classifier

end FormulaAudit
