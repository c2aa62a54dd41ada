import FormulaAudit.Proofs.Pattern.Line
import FormulaAudit.Proofs.Text.Letter

/-!
The words that the grammars of the standard rules are made of, as languages that do not mention
patterns, and the patterns that describe them.
-/

set_option autoImplicit false

namespace FormulaAudit

namespace Grammar

def exactly (text : String) : Language Char := {w | w = text.toList}

/-- The word, letter by letter, in any mixture of cases. -/
def inAnyCase (word : String) : Language Char := {w | List.Forall₂ Text.SameLetter w word.toList}

/-- One character of those listed. -/
def oneFrom (choices : String) : Language Char := {w | ∃ c ∈ choices.toList, w = [c]}

/-- Text that holds none of the characters. -/
def without (excluded : String) : Language Char := {w | ∀ c ∈ w, c ∉ excluded.toList}

/-- One letter or more, from `A` to `Z`. -/
def letters : Language Char := {w | w ≠ [] ∧ ∀ c ∈ w, 'A' ≤ c ∧ c ≤ 'Z'}

/-- One decimal digit or more, of any script. -/
def digits : Language Char := {w | w ≠ [] ∧ ∀ c ∈ w, Text.isDecimalDigit c = true}

def reference : Language Char := letters * digits

def fixedReference : Language Char := exactly "$" * letters * exactly "$" * digits

def quoted : Language Char := exactly "\"" * without "\"" * exactly "\""

end Grammar

namespace Pattern

open Grammar

theorem language_literal (text : String) : (literal text).language = exactly text := by
  ext w
  exact mem_language_literal text

theorem language_caseless {word : String} (hword : ∀ c ∈ word.toList, c.toNat < 128) :
    (caseless word).language = inAnyCase word := by
  have hsame (cs : List Char) (hcs : ∀ c ∈ cs, c.toNat < 128) (w : List Char) :
      List.Forall₂ (fun d c ↦ d ∈ Text.caselessVariants c) w cs ↔
        List.Forall₂ Text.SameLetter w cs := by
    induction cs generalizing w with
    | nil => simp
    | cons c cs ih =>
      have hc := hcs c List.mem_cons_self
      have htail := ih fun d hd ↦ hcs d (List.mem_cons_of_mem c hd)
      cases w with
      | nil => simp
      | cons d w =>
        rw [List.forall₂_cons, List.forall₂_cons, Text.mem_caselessVariants_iff hc, htail]
  ext w
  exact (mem_language_caseless word).trans (hsame word.toList hword w)

theorem language_oneOf_anyOf (choices : String) :
    (oneOf (.anyOf choices)).language = oneFrom choices := by
  ext w
  simp only [mem_language_oneOf, CharClass.contains_anyOf, decide_eq_true_eq]
  rfl

theorem language_many_noneOf (excluded : String) :
    (many (oneOf (.noneOf excluded))).language = without excluded := by
  ext w
  rw [mem_language_many_oneOf]
  simp only [CharClass.contains_noneOf, Bool.not_eq_true', decide_eq_false_iff_not]
  rfl

theorem language_repeated_oneOf {k : CharClass} {allowed : Char → Prop}
    (hk : ∀ c, k.contains c = true ↔ allowed c) :
    (repeated (oneOf k)).language = {w | w ≠ [] ∧ ∀ c ∈ w, allowed c} := by
  ext w
  rw [mem_language_repeated_oneOf]
  simp only [hk]
  rfl

theorem language_capitals : (repeated (oneOf .capital)).language = letters :=
  language_repeated_oneOf fun c ↦ by simp

theorem language_digits : (repeated (oneOf .digit)).language = digits :=
  language_repeated_oneOf fun c ↦ by simp

theorem language_seq (p q : Pattern) : (seq p q).language = p.language * q.language := rfl

theorem language_either (p q : Pattern) : (either p q).language = p.language + q.language := rfl

theorem language_reference : Pattern.reference.language = Grammar.reference := by
  rw [Pattern.reference, language_seq, language_capitals, language_digits, Grammar.reference]

theorem language_fixedReference : Pattern.fixedReference.language = Grammar.fixedReference := by
  rw [Pattern.fixedReference, language_sequence, Grammar.fixedReference]
  simp only [List.map_cons, List.map_nil, List.prod_cons, List.prod_nil, mul_one, mul_assoc,
    language_literal, language_capitals, language_digits]

theorem language_quotedText : quotedText.language = quoted := by
  rw [quotedText, language_sequence, quoted]
  simp only [List.map_cons, List.map_nil, List.prod_cons, List.prod_nil, mul_one, mul_assoc,
    language_literal, language_many_noneOf]

end Pattern

end FormulaAudit
