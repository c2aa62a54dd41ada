import FormulaAudit.Text.Blank
import FormulaAudit.Text.DecimalDigit
import FormulaAudit.Text.LetterCase

/-!
Classes of characters, the smallest parts of a text pattern. A class lists what it holds, or what
it leaves out; a class that ignores case lists every variant of each of its characters.
-/

set_option autoImplicit false

namespace FormulaAudit

/-- One entry of a class of characters. -/
inductive ClassItem where
  | single (c : Char)
  | range (first last : Char)
  | caselessRange (first last : Char)
  | digit
  | nonDigit
  | blank
  | nonBlank

def ClassItem.contains (c : Char) : ClassItem → Bool
  | single d => c == d
  | range first last => first ≤ c && c ≤ last
  | caselessRange first last =>
    (Text.caselessVariants c).any fun d ↦ first ≤ d && d ≤ last
  | digit => Text.isDecimalDigit c
  | nonDigit => !Text.isDecimalDigit c
  | blank => Text.isBlank c
  | nonBlank => !Text.isBlank c

/-- A class of characters, given by what it holds or, if negated, by what it leaves out. -/
structure CharClass where
  items : List ClassItem
  negated : Bool := false

namespace CharClass

def contains (k : CharClass) (c : Char) : Bool :=
  k.negated != k.items.any (·.contains c)

def single (c : Char) : CharClass := { items := [.single c] }

/-- The characters that differ from `c` at most in case. -/
def caseless (c : Char) : CharClass := { items := (Text.caselessVariants c).map .single }

def anyOf (text : String) : CharClass := { items := text.toList.map .single }

def noneOf (text : String) : CharClass := { anyOf text with negated := true }

/-- Every character but the line feed. -/
def withinLine : CharClass := noneOf "\n"

/-- The letters from `A` to `Z`. -/
def capital : CharClass := { items := [.range 'A' 'Z'] }

def digit : CharClass := { items := [.digit] }

@[simp] theorem contains_single (c d : Char) : (single d).contains c = (c == d) := by
  simp [single, contains, ClassItem.contains]

private theorem any_single (c : Char) (ds : List Char) :
    (ds.map ClassItem.single).any (·.contains c) = decide (c ∈ ds) := by
  induction ds with
  | nil => rfl
  | cons d ds ih =>
    rw [List.map_cons, List.any_cons, ih]
    by_cases h : c = d <;> simp [ClassItem.contains, h]

@[simp] theorem contains_caseless (c d : Char) :
    (caseless d).contains c = decide (c ∈ Text.caselessVariants d) := by
  simp only [caseless, contains, any_single, Bool.false_bne]

@[simp] theorem contains_anyOf (c : Char) (text : String) :
    (anyOf text).contains c = decide (c ∈ text.toList) := by
  simp only [anyOf, contains, any_single, Bool.false_bne]

@[simp] theorem contains_noneOf (c : Char) (text : String) :
    (noneOf text).contains c = !decide (c ∈ text.toList) := by
  simp only [noneOf, anyOf, contains, any_single, Bool.true_bne]

@[simp] theorem contains_withinLine (c : Char) : withinLine.contains c = !decide (c = '\n') := by
  simp [withinLine]

@[simp] theorem contains_capital (c : Char) :
    capital.contains c = (decide ('A' ≤ c) && decide (c ≤ 'Z')) := by
  simp [capital, contains, ClassItem.contains]

@[simp] theorem contains_digit (c : Char) : digit.contains c = Text.isDecimalDigit c := by
  simp [digit, contains, ClassItem.contains]

end CharClass

end FormulaAudit
