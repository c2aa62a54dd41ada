import FormulaAudit.Pattern.CharClass

/-!
Text patterns. A pattern describes stretches of a text by their characters and by where they stand;
`Pattern.Spans` says which stretches those are, and is what a search for the pattern is about.
-/

set_option autoImplicit false

namespace FormulaAudit

/-- A pattern over stretches of text. -/
inductive Pattern where
  /-- The stretch of no characters. -/
  | empty
  /-- The place in front of the first character. -/
  | start
  /-- The place after the last character, or in front of a line feed that is the last one. -/
  | finish
  | oneOf (k : CharClass)
  | seq (first second : Pattern)
  | either (first second : Pattern)
  /-- Any number of stretches one after the other, none included. -/
  | many (body : Pattern)

namespace Pattern

def sequence : List Pattern → Pattern
  | [] => empty
  | [p] => p
  | p :: ps => seq p (sequence ps)

/-- At least one stretch. -/
def repeated (body : Pattern) : Pattern := seq body (many body)

def optional (body : Pattern) : Pattern := either body empty

def literal (text : String) : Pattern :=
  sequence (text.toList.map fun c ↦ oneOf (.single c))

/-- The text in any mixture of cases. -/
def caseless (text : String) : Pattern :=
  sequence (text.toList.map fun c ↦ oneOf (.caseless c))

/-- Any stretch within one line. -/
def gap : Pattern := many (oneOf .withinLine)

/-- The pattern holds of the stretch `mid` that stands between `before` and `after`. -/
inductive Spans : Pattern → (before mid after : List Char) → Prop
  | empty (before after : List Char) : Spans empty before [] after
  | start (after : List Char) : Spans start [] [] after
  | finish (before : List Char) : Spans finish before [] []
  | finishLine (before : List Char) : Spans finish before [] ['\n']
  | oneOf {k : CharClass} {c : Char} (before after : List Char) (h : k.contains c = true) :
      Spans (oneOf k) before [c] after
  | seq {p q : Pattern} {before mid₁ mid₂ after : List Char}
      (h₁ : Spans p before mid₁ (mid₂ ++ after)) (h₂ : Spans q (before ++ mid₁) mid₂ after) :
      Spans (seq p q) before (mid₁ ++ mid₂) after
  | left {p : Pattern} (q : Pattern) {before mid after : List Char}
      (h : Spans p before mid after) : Spans (either p q) before mid after
  | right (p : Pattern) {q : Pattern} {before mid after : List Char}
      (h : Spans q before mid after) : Spans (either p q) before mid after
  | done (p : Pattern) (before after : List Char) : Spans (many p) before [] after
  | more {p : Pattern} {before mid₁ mid₂ after : List Char}
      (h₁ : Spans p before mid₁ (mid₂ ++ after)) (h₂ : Spans (many p) (before ++ mid₁) mid₂ after) :
      Spans (many p) before (mid₁ ++ mid₂) after

/-- The pattern holds of some stretch of the text. -/
def OccursIn (p : Pattern) (text : List Char) : Prop :=
  ∃ before mid after, text = before ++ (mid ++ after) ∧ p.Spans before mid after

end Pattern

end FormulaAudit
