import FormulaAudit.Record
import FormulaAudit.RuleBook.Standard
import FormulaAudit.Score

/-!
Classification of formulas. A rule decides if one applies; otherwise the heuristic score does. A
classified record keeps what decided it: a rule's name or a score, never both and never neither.
-/

set_option autoImplicit false

namespace FormulaAudit

/-- What decided a category. -/
inductive Evidence where
  | rule (name : String)
  | score (points : Nat)
deriving DecidableEq

namespace Evidence

def rule? : Evidence → Option String
  | rule name => some name
  | score _ => none

def score? : Evidence → Option Nat
  | rule _ => none
  | score points => some points

end Evidence

/-- A record with its category and what speaks for it. -/
structure Classified where
  record : Record
  category : Category
  features : Features
  evidence : Evidence

/-- Classifies formulas by a rule book. -/
structure Classifier where
  book : RuleBook

namespace Classifier

def standard : Classifier := ⟨.standard⟩

/-- A book without rules gives way to the standard one. -/
def ofBook (book : RuleBook) : Classifier := ⟨if book.isEmpty then .standard else book⟩

def category (k : Classifier) (formula : String) : Category :=
  match k.book.decidingRule? formula with
  | some rule => rule.category
  | none => .ofScore (Features.ofFormula formula).score

/-- Classifies a record and keeps the evidence. -/
def classify (k : Classifier) (record : Record) : Classified :=
  let features := Features.ofFormula record.formula
  match k.book.decidingRule? record.formula with
  | some rule => { record, category := rule.category, features, evidence := .rule rule.name }
  | none =>
    { record, category := .ofScore features.score, features, evidence := .score features.score }

end Classifier

end FormulaAudit
