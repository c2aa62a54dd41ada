import FormulaAudit.Proofs.Classification.Evidence

/-!
Books made from one another. A call puts one more rule in front of the rules of a book or behind
them, and gives a new book; a draft whose expression cannot be read gives none. The rule has the
name, the description and the category of its draft, and looks for what the expression of the draft
writes down, by its options (`Draft.rule_eq_ok_iff`). After any number of
calls the book has the rules put in front, the latest first, then those that it started with, then
those put behind, in the order of the calls (`rules_run`). A rule in front therefore takes over every
formula in which it finds something, and a rule behind gets those that no other rule wants; the books
that were there before stay among those obtained, at their places (`calls_compose`).
-/

set_option autoImplicit false

namespace FormulaAudit.RuleBook

variable {book : RuleBook} {draft : Draft} {rule : Rule} {fault : Expression.Fault}

/-! ### One more rule -/

/-- A draft gives a rule exactly if its expression can be read. -/
theorem Draft.rule_eq_ok_iff : draft.rule = .ok rule ↔
    ∃ e, Expression.read draft.expression draft.toOptions = .ok e ∧ rule = {
      name := draft.name
      target := .expression e
      description := draft.description
      category := draft.category } := by
  rw [Draft.rule]
  cases Expression.read draft.expression draft.toOptions with
  | error fault => simp [Except.bind, bind]
  | ok e => simp [Except.bind, bind, pure, Except.pure, eq_comm]

theorem Draft.rule_eq_error_iff : draft.rule = .error fault ↔
    Expression.read draft.expression draft.toOptions = .error fault := by
  rw [Draft.rule]
  cases Expression.read draft.expression draft.toOptions with
  | error fault => simp [Except.bind, bind]
  | ok e => simp [Except.bind, bind, pure, Except.pure]

theorem withRule_of_error (hdraft : draft.rule = .error fault) :
    book.withRule draft = .error fault := by
  rw [withRule, hdraft]
  rfl

theorem withRule_of_ok (hdraft : draft.rule = .ok rule) : book.withRule draft =
    .ok (if draft.first then book.insertFirst rule else book.insertLast rule) := by
  rw [withRule, hdraft]
  rfl

/-- A rule in front decides where it finds something, and elsewhere nothing changes. -/
theorem decidingRule?_insertFirst (book : RuleBook) (rule : Rule) (formula : String) :
    (book.insertFirst rule).decidingRule? formula =
      if rule.foundIn formula then some rule else book.decidingRule? formula := by
  rw [decidingRule?, insertFirst, List.find?_cons]
  cases rule.foundIn formula <;> rfl

/-- A rule behind decides where it finds something and no other rule does. -/
theorem decidingRule?_insertLast (book : RuleBook) (rule : Rule) (formula : String) :
    (book.insertLast rule).decidingRule? formula =
      (book.decidingRule? formula).or (if rule.foundIn formula then some rule else none) := by
  rw [decidingRule?, insertLast, List.find?_append, List.find?_singleton]
  rfl

/-! ### The rules of many drafts -/

/-- The rules of the drafts that can be read. -/
def rulesOf (drafts : List Draft) : List Rule := drafts.filterMap (·.rule.toOption)

/-- The rules that calls put in front of a book: the latest stands first. -/
def frontRules (drafts : List Draft) : List Rule := (rulesOf (drafts.filter (·.first))).reverse

/-- The rules that calls put behind a book, in the order of the calls. -/
def backRules (drafts : List Draft) : List Rule := rulesOf (drafts.filter (!·.first))

theorem rulesOf_cons (draft : Draft) (drafts : List Draft) :
    rulesOf (draft :: drafts) = rulesOf [draft] ++ rulesOf drafts :=
  List.filterMap_append (l := [draft])

theorem rulesOf_of_error (hdraft : draft.rule = .error fault) : rulesOf [draft] = [] := by
  rw [rulesOf, List.filterMap_cons, hdraft]
  rfl

theorem rulesOf_of_ok (hdraft : draft.rule = .ok rule) : rulesOf [draft] = [rule] := by
  rw [rulesOf, List.filterMap_cons, hdraft]
  rfl

theorem reverse_rulesOf_singleton (draft : Draft) :
    (rulesOf [draft]).reverse = rulesOf [draft] := by
  cases hdraft : draft.rule with
  | error fault => rw [rulesOf_of_error hdraft, List.reverse_nil]
  | ok rule => rw [rulesOf_of_ok hdraft, List.reverse_singleton]

theorem frontRules_cons (draft : Draft) (drafts : List Draft) : frontRules (draft :: drafts) =
    frontRules drafts ++ if draft.first then rulesOf [draft] else [] := by
  rw [frontRules, List.filter_cons]
  cases draft.first
  · exact (List.append_nil _).symm
  · rw [if_pos rfl, rulesOf_cons, List.reverse_append, reverse_rulesOf_singleton]
    rfl

theorem backRules_cons (draft : Draft) (drafts : List Draft) : backRules (draft :: drafts) =
    (if draft.first then [] else rulesOf [draft]) ++ backRules drafts := by
  rw [backRules, List.filter_cons]
  cases draft.first
  · exact rulesOf_cons draft _
  · rfl

/-! ### Calls -/

/-- Books in use: the one that the next call works on, and all that there have been, in the order in
which they were obtained. -/
structure Derivation where
  current : RuleBook
  obtained : List RuleBook

namespace Derivation

def start (book : RuleBook) : Derivation := ⟨book, [book]⟩

/-- A call on the current book. What it refuses leaves everything as it is. -/
def step (d : Derivation) (draft : Draft) : Derivation :=
  match d.current.withRule draft with
  | .ok book => ⟨book, d.obtained ++ [book]⟩
  | .error _ => d

def run (d : Derivation) (drafts : List Draft) : Derivation := drafts.foldl step d

variable {d : Derivation}

theorem step_of_error (hdraft : draft.rule = .error fault) : d.step draft = d := by
  rw [step, withRule_of_error hdraft]

theorem step_of_ok {book : RuleBook} (hbook : d.current.withRule draft = .ok book) :
    d.step draft = ⟨book, d.obtained ++ [book]⟩ := by
  rw [step, hbook]

theorem rules_step (d : Derivation) (draft : Draft) : (d.step draft).current.rules =
    (if draft.first then rulesOf [draft] else []) ++ d.current.rules ++
      (if draft.first then [] else rulesOf [draft]) := by
  cases hdraft : draft.rule with
  | error fault =>
    rw [step_of_error hdraft, rulesOf_of_error hdraft, ite_self, List.append_nil]
    rfl
  | ok rule =>
    rw [step_of_ok (withRule_of_ok hdraft), rulesOf_of_ok hdraft]
    cases draft.first
    · rfl
    · exact (List.append_nil _).symm

theorem rules_run (d : Derivation) (drafts : List Draft) :
    (d.run drafts).current.rules = frontRules drafts ++ d.current.rules ++ backRules drafts := by
  induction drafts generalizing d with
  | nil => exact (List.append_nil _).symm
  | cons draft drafts ih =>
    have hrun : d.run (draft :: drafts) = (d.step draft).run drafts := rfl
    rw [hrun, ih, rules_step, frontRules_cons, backRules_cons]
    simp only [List.append_assoc]

/-- A call takes back no book, and one that is not refused adds the book that it gives. -/
theorem obtained_step (d : Derivation) (draft : Draft) :
    d.obtained <+: (d.step draft).obtained ∧
      (d.step draft).obtained.length = d.obtained.length + (rulesOf [draft]).length := by
  cases hdraft : draft.rule with
  | error fault =>
    rw [step_of_error hdraft, rulesOf_of_error hdraft]
    exact ⟨List.prefix_refl _, rfl⟩
  | ok rule =>
    rw [step_of_ok (withRule_of_ok hdraft), rulesOf_of_ok hdraft]
    exact ⟨List.prefix_append _ _, List.length_append⟩

theorem obtained_run (d : Derivation) (drafts : List Draft) :
    d.obtained <+: (d.run drafts).obtained ∧
      (d.run drafts).obtained.length = d.obtained.length + (rulesOf drafts).length := by
  induction drafts generalizing d with
  | nil => exact ⟨List.prefix_refl _, rfl⟩
  | cons draft drafts ih =>
    obtain ⟨hkept, hlength⟩ := d.obtained_step draft
    obtain ⟨hkept', hlength'⟩ := ih (d.step draft)
    refine ⟨hkept.trans hkept', ?_⟩
    rw [rulesOf_cons, List.length_append, ← Nat.add_assoc, ← hlength]
    exact hlength'

/-- The book that the next call works on is the last one obtained. -/
theorem getLast?_obtained_step (hd : d.obtained.getLast? = some d.current) (draft : Draft) :
    (d.step draft).obtained.getLast? = some (d.step draft).current := by
  cases hdraft : draft.rule with
  | error fault => rwa [step_of_error hdraft]
  | ok rule =>
    rw [step_of_ok (withRule_of_ok hdraft)]
    exact List.getLast?_concat

theorem getLast?_obtained_run (hd : d.obtained.getLast? = some d.current) (drafts : List Draft) :
    (d.run drafts).obtained.getLast? = some (d.run drafts).current := by
  induction drafts generalizing d with
  | nil => exact hd
  | cons draft drafts ih => exact ih (getLast?_obtained_step hd draft)

/-- A book stays at its place among those obtained, whatever calls are made after it. -/
theorem getElem?_obtained_run (book : RuleBook) (drafts later : List Draft) :
    ((start book).run (drafts ++ later)).obtained[(rulesOf drafts).length]? =
      some ((start book).run drafts).current := by
  have hlength : ((start book).run drafts).obtained.length = (rulesOf drafts).length + 1 := by
    rw [((start book).obtained_run drafts).2, Nat.add_comm]
    rfl
  have hlast := getLast?_obtained_run (d := start book) rfl drafts
  rw [List.getLast?_eq_getElem?, hlength, Nat.add_sub_cancel] at hlast
  have hrun : (start book).run (drafts ++ later) = ((start book).run drafts).run later :=
    List.foldl_append
  obtain ⟨more, hmore⟩ := (((start book).run drafts).obtained_run later).1
  rw [hrun, ← hmore, List.getElem?_append_left (by omega), hlast]

/-- What a call owes to its draft, to the book that it is made on, and to those obtained. -/
structure Answers (d : Derivation) (draft : Draft) : Prop where
  rule_iff : ∀ rule, draft.rule = .ok rule ↔
    ∃ e, Expression.read draft.expression draft.toOptions = .ok e ∧
      rule = ⟨draft.name, .expression e, draft.description, draft.category⟩
  fault_iff : ∀ fault, draft.rule = .error fault ↔
    Expression.read draft.expression draft.toOptions = .error fault
  refused : ∀ fault, draft.rule = .error fault →
    d.current.withRule draft = .error fault ∧ d.step draft = d
  accepted : ∀ rule, draft.rule = .ok rule → ∃ book, d.current.withRule draft = .ok book ∧
    d.step draft = ⟨book, d.obtained ++ [book]⟩ ∧ book.size = d.current.size + 1
  overrides : ∀ rule, draft.rule = .ok rule → draft.first = true → ∀ formula,
    (d.step draft).current.decidingRule? formula =
      if rule.foundIn formula then some rule else d.current.decidingRule? formula
  supplements : ∀ rule, draft.rule = .ok rule → draft.first = false → ∀ formula,
    (d.step draft).current.decidingRule? formula =
      (d.current.decidingRule? formula).or (if rule.foundIn formula then some rule else none)

theorem answers (d : Derivation) (draft : Draft) : d.Answers draft where
  rule_iff _ := Draft.rule_eq_ok_iff
  fault_iff _ := Draft.rule_eq_error_iff
  refused _ hdraft := ⟨withRule_of_error hdraft, step_of_error hdraft⟩
  accepted rule hdraft := by
    refine ⟨_, withRule_of_ok hdraft, step_of_ok (withRule_of_ok hdraft), ?_⟩
    split
    · exact List.length_cons
    · exact List.length_append
  overrides rule hdraft hfirst formula := by
    rw [step_of_ok (withRule_of_ok hdraft), if_pos hfirst]
    exact decidingRule?_insertFirst _ _ _
  supplements rule hdraft hfirst formula := by
    rw [step_of_ok (withRule_of_ok hdraft), if_neg (Bool.eq_false_iff.mp hfirst)]
    exact decidingRule?_insertLast _ _ _

/-- Whatever calls are made on a book, the result has the rules put in front, the latest first, then
those of the book, then those put behind, and the first of them that finds something in a formula
decides it. The next call overrides or supplements these verdicts by the rule that its draft writes
down, or changes nothing; the result stays at its place among the books obtained, with its rules,
whatever calls are made later. -/
theorem calls_compose (book : RuleBook) (drafts later : List Draft) :
    let d := (start book).run drafts
    let rules := frontRules drafts ++ book.rules ++ backRules drafts
    d.current.rules = rules ∧
      (∀ formula rule, d.current.decidingRule? formula = some rule ↔
        RuleBook.Decides ⟨rules⟩ rule formula) ∧
      (∀ formula, d.current.decidingRule? formula = none ↔
        ∀ rule ∈ rules, rule.foundIn formula = false) ∧
      (∀ draft, d.Answers draft) ∧
      ((start book).run (drafts ++ later)).obtained[(rulesOf drafts).length]? = some ⟨rules⟩ := by
  intro d rules
  have hrules : d.current.rules = rules := (start book).rules_run drafts
  have hcurrent : d.current = ⟨rules⟩ := congrArg RuleBook.mk hrules
  refine ⟨hrules, fun formula rule ↦ ?_, fun formula ↦ ?_, d.answers, ?_⟩
  · rw [hcurrent, decidingRule?_eq_some_iff]
  · rw [hcurrent, decidingRule?_eq_none_iff]
  · rw [getElem?_obtained_run]
    exact congrArg some hcurrent

/-- A rule in front of the standard ones, a draft that cannot be read, and a rule behind them all:
what the three books obtained decide of two formulas that the standard rules leave to the score. -/
example :
    let d := (start .standard).run
      [{ name := "plain_sum", expression := "^SUM\\(", category := .medium, first := true },
        { name := "open", expression := "(", category := .simple },
        { name := "anything", expression := ".*", category := .complex }]
    d.obtained.map (·.size) = [21, 22, 23] ∧
      d.obtained.map (·.category? "SUM(A1:A5)") = [none, some .medium, some .medium] ∧
      d.obtained.map (·.category? "ROUND(A1,2)") = [none, none, some .complex] := by
  decide +kernel

end Derivation

end FormulaAudit.RuleBook
