import FormulaAudit.Proofs.RuleBook.Decision
import FormulaAudit.Proofs.RuleBook.Grammar

/-!
What makes a formula simple by rule: its form as a whole. Each form is a language, and the pattern
of its rule is found in a formula exactly if the formula is a word of that language, with or without
one line feed at its end (`simplePatterns_describe`). A form decides only where no rule for complex
formulas finds anything.
-/

set_option autoImplicit false

namespace FormulaAudit

/-- The forms of formulas that are simple by rule. -/
inductive SimpleForm where
  | cellReference
  | referenceArithmetic
  | absoluteDivision
  | blankCheck
  | literalConcatenation
  | sheetReference
  | number
  | scaledReference
deriving DecidableEq

namespace SimpleForm

open Grammar

/-- All forms, in the order of their rules. -/
def all : List SimpleForm :=
  [cellReference, referenceArithmetic, absoluteDivision, blankCheck, literalConcatenation,
    sheetReference, number, scaledReference]

theorem mem_all (form : SimpleForm) : form ∈ all := by cases form <;> simp [all]

def name : SimpleForm → String
  | cellReference => "cell_reference"
  | referenceArithmetic => "reference_arithmetic"
  | absoluteDivision => "absolute_division"
  | blankCheck => "blank_check"
  | literalConcatenation => "literal_concatenation"
  | sheetReference => "sheet_reference"
  | number => "number"
  | scaledReference => "scaled_reference"

/-- The cell that a blank check looks at, as it is written. -/
def blankCheckSubject : Language Char := {w | w ≠ [] ∧ ∀ c ∈ w, c ≠ ',' ∧ c ≠ ')'}

/-- What a blank check results in: quoted text, or a reference with dollar signs as one likes. -/
def blankCheckResult : Language Char :=
  quoted + (1 + exactly "$") * letters * (1 + exactly "$") * digits

def sheetName : Language Char := {w | w ≠ [] ∧ ∀ c ∈ w, ('A' ≤ c ∧ c ≤ 'Z') ∨ c = '_'}

/-- A factor may hold any number of points, at any place. -/
def factor : Language Char := {w | w ≠ [] ∧ ∀ c ∈ w, Text.isDecimalDigit c = true ∨ c = '.'}

/-- The formulas of a form. -/
def language : SimpleForm → Language Char
  | cellReference => reference
  | referenceArithmetic => reference * oneFrom "+-*/" * reference
  | absoluteDivision => reference * exactly "/" * fixedReference
  | blankCheck =>
    exactly "IF(ISBLANK(" * blankCheckSubject * exactly ")," * blankCheckResult * exactly ","
      * blankCheckResult * exactly ")"
  | literalConcatenation => quoted * exactly "&" * reference
  | sheetReference => sheetName * exactly "!" * reference
  | number => digits + digits * exactly "." * digits
  | scaledReference => reference * exactly "*" * factor

/-- The formula has the form, or has it up to one line feed at its end. -/
def Describes (form : SimpleForm) (formula : String) : Prop :=
  ∃ w ∈ form.language, formula.toList = w ∨ formula.toList = w ++ ['\n']

end SimpleForm

namespace RuleBook

open Pattern Grammar

theorem language_blankCheckSubject :
    (repeated (oneOf (.noneOf ",)"))).language = SimpleForm.blankCheckSubject :=
  language_repeated_oneOf fun c ↦ by simp

theorem language_sheetName :
    (repeated (oneOf { items := [.range 'A' 'Z', .single '_'] })).language = SimpleForm.sheetName :=
  language_repeated_oneOf fun c ↦ by simp [CharClass.contains, ClassItem.contains]

theorem language_factor : (repeated (oneOf { items := [.digit, .single '.'] })).language =
    SimpleForm.factor :=
  language_repeated_oneOf fun c ↦ by simp [CharClass.contains, ClassItem.contains]

theorem language_optional (p : Pattern) : (optional p).language = 1 + p.language := by
  rw [Pattern.optional, language_either, add_comm]
  rfl

theorem language_blankCheckOutcome : blankCheckOutcome.language = SimpleForm.blankCheckResult := by
  rw [blankCheckOutcome, language_either, language_sequence, SimpleForm.blankCheckResult]
  simp only [List.map_cons, List.map_nil, List.prod_cons, List.prod_nil, mul_one, mul_assoc,
    language_quotedText, language_optional, language_literal, language_capitals, language_digits]

theorem whole_foundIn_iff {parts : List Pattern} {form : SimpleForm}
    (hfree : parts.all anchorFree = true) (hparts : (parts.map language).prod = form.language)
    (formula : String) : (whole parts).foundIn formula = true ↔ form.Describes formula := by
  rw [foundIn_iff_occursIn, whole, occursIn_anchored hfree, hparts]
  rfl

/-- Rule by rule, the pattern and its form agree on every formula. -/
theorem simplePatterns_describe : List.Forall₂ (fun p form ↦ p.name = form.name ∧
    ∀ formula, p.foundIn formula = true ↔ form.Describes formula)
    simplePatterns SimpleForm.all := by
  refine .cons ⟨rfl, whole_foundIn_iff (by decide) ?_⟩ <|
    .cons ⟨rfl, whole_foundIn_iff (by decide) ?_⟩ <|
    .cons ⟨rfl, whole_foundIn_iff (by decide) ?_⟩ <|
    .cons ⟨rfl, whole_foundIn_iff (by decide) ?_⟩ <|
    .cons ⟨rfl, whole_foundIn_iff (by decide) ?_⟩ <|
    .cons ⟨rfl, whole_foundIn_iff (by decide) ?_⟩ <|
    .cons ⟨rfl, whole_foundIn_iff (by decide) ?_⟩ <|
    .cons ⟨rfl, whole_foundIn_iff (by decide) ?_⟩ .nil
  case refine_7 =>
    simp only [List.map_cons, List.map_nil, List.prod_cons, List.prod_nil, mul_one, language_seq,
      language_optional, language_literal, language_digits, SimpleForm.language, mul_add, mul_assoc]
  all_goals
    simp only [List.map_cons, List.map_nil, List.prod_cons, List.prod_nil, mul_one, mul_assoc,
      language_reference, language_literal, language_oneOf_anyOf, language_fixedReference,
      language_blankCheckSubject, language_blankCheckOutcome, language_quotedText,
      language_sheetName, language_factor, SimpleForm.language]

theorem exists_mem_iff_of_forall₂ {α β : Type} {P : α → Prop} {Q : β → Prop} {xs : List α}
    {ys : List β} (h : List.Forall₂ (fun x y ↦ P x ↔ Q y) xs ys) :
    (∃ x ∈ xs, P x) ↔ ∃ y ∈ ys, Q y := by
  induction h with
  | nil => simp
  | cons hhead _ ih => simp only [List.mem_cons, exists_eq_or_imp, hhead, ih]

theorem exists_simplePattern_iff {formula : String} :
    (∃ p ∈ simplePatterns, p.foundIn formula = true) ↔
      ∃ form : SimpleForm, form.Describes formula := by
  have hagree := simplePatterns_describe.imp fun _ _ h ↦ h.2 formula
  rw [exists_mem_iff_of_forall₂ hagree]
  exact exists_congr fun form ↦ and_iff_right form.mem_all

/-- The patterns for simple formulas and their forms are the same, one by one, and a formula is
simple by rule exactly if it has a form and no pattern for complex formulas is found in it. Where
there is neither, no rule decides. -/
theorem decided_simple_iff_form :
    List.Forall₂ (fun p form ↦ p.name = form.name ∧
      ∀ formula, p.foundIn formula = true ↔ form.Describes formula) simplePatterns SimpleForm.all ∧
    ∀ formula,
      (standard.category? formula = some .simple ↔ (∃ form : SimpleForm, form.Describes formula) ∧
        ¬ ∃ p ∈ complexPatterns, p.foundIn formula = true) ∧
      (standard.category? formula = none ↔ (¬ ∃ form : SimpleForm, form.Describes formula) ∧
        ¬ ∃ p ∈ complexPatterns, p.foundIn formula = true) := by
  refine ⟨simplePatterns_describe, fun formula ↦ ⟨?_, ?_⟩⟩
  · rw [category?_standard_eq_simple_iff, exists_simplePattern_iff]
  · rw [category?_standard_eq_none_iff, exists_simplePattern_iff]

end RuleBook

end FormulaAudit
