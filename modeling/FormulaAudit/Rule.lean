import FormulaAudit.Category
import FormulaAudit.Expression.Reader
import FormulaAudit.Expression.Search
import FormulaAudit.Pattern.Search

/-!
Rules and rule books. A rule pairs what is looked for in a formula with the category that it
decides; a rule book lists rules in order of precedence, and the first one that finds what it looks
for decides.
-/

set_option autoImplicit false

namespace FormulaAudit

/-- A pattern with a name. -/
structure NamedPattern where
  name : String
  pattern : Pattern
  description : String := ""

def NamedPattern.foundIn (p : NamedPattern) (formula : String) : Bool := p.pattern.foundIn formula

/-- What a rule looks for: a pattern of the standard book, or an expression that was written
down. -/
inductive Rule.Target where
  | pattern (p : Pattern)
  | expression (e : Expression)

def Rule.Target.foundIn (formula : String) : Rule.Target → Bool
  | pattern p => p.foundIn formula
  | expression e => e.foundIn formula

/-- A formula in which the target is found belongs to the category. -/
structure Rule where
  name : String
  target : Rule.Target
  description : String := ""
  category : Category

def Rule.foundIn (r : Rule) (formula : String) : Bool := r.target.foundIn formula

/-- The rule that a pattern decides a category. -/
def NamedPattern.rule (p : NamedPattern) (category : Category) : Rule where
  name := p.name
  target := .pattern p.pattern
  description := p.description
  category

/-- Rules in order of precedence. -/
structure RuleBook where
  rules : List Rule

namespace RuleBook

def size (book : RuleBook) : Nat := book.rules.length

def isEmpty (book : RuleBook) : Bool := book.rules.isEmpty

/-- The first rule whose target is found in the formula. -/
def decidingRule? (book : RuleBook) (formula : String) : Option Rule :=
  book.rules.find? (·.foundIn formula)

/-- The category that the rules alone decide. -/
def category? (book : RuleBook) (formula : String) : Option Category :=
  (book.decidingRule? formula).map (·.category)

def insertFirst (book : RuleBook) (rule : Rule) : RuleBook := ⟨rule :: book.rules⟩

def insertLast (book : RuleBook) (rule : Rule) : RuleBook := ⟨book.rules ++ [rule]⟩

/-- A rule as it is written down, to be put before or after the rules of a book, with the options
that its expression is read by. -/
structure Draft extends Expression.Options where
  name : String
  expression : String
  category : Category
  description : String := ""
  first : Bool := false

def Draft.rule (draft : Draft) : Except Expression.Fault Rule := do
  let e ← Expression.read draft.expression draft.toOptions
  return {
    name := draft.name
    target := .expression e
    description := draft.description
    category := draft.category }

/-- The book with one more rule, or what is wrong with its expression. -/
def withRule (book : RuleBook) (draft : Draft) : Except Expression.Fault RuleBook :=
  draft.rule.map fun rule ↦ if draft.first then book.insertFirst rule else book.insertLast rule

end RuleBook

end FormulaAudit
