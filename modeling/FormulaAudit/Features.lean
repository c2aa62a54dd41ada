import FormulaAudit.Text.LetterCase

/-!
The features of a formula: the measurements that its score and the reports rest on. They are taken
from the text alone, with no knowledge of the grammar of formulas: a call is a run of letters in
front of an opening parenthesis.
-/

set_option autoImplicit false

namespace FormulaAudit

/-- The measurements of one formula. A sheet of measurements may also come from outside, so the
counts are integers. -/
structure Features where
  length : Int
  functionCount : Int
  ifCount : Int
  commaCount : Int
  crossSheet : Bool
  /-- The catalogued functions whose names occur in the text. -/
  complexFunctions : List String := []
  /-- The logical operators that seem to be called. -/
  logicalOperators : List String := []
  /-- The names in front of parentheses, in upper case and in order of appearance. -/
  functionNames : List String := []

namespace Features

/-- Functions that make a formula harder to carry over. -/
def complexFunctionCatalogue : List String :=
  ["VLOOKUP", "INDEX", "MATCH", "SUMIF", "COUNTIF", "IFERROR", "SUBTOTAL"]

def logicalOperatorCatalogue : List String := ["AND", "OR"]

def isCapital (c : Char) : Bool := 'A' ≤ c && c ≤ 'Z'

def isLetter (c : Char) : Bool := isCapital c || ('a' ≤ c && c ≤ 'z')

/-- The maximal runs of characters of a name that end in front of an opening parenthesis; `run`
holds the characters read last, latest first. -/
def calledNames (inName : Char → Bool) : (run : List Char) → List Char → List (List Char)
  | _, [] => []
  | run, c :: cs =>
    if inName c then calledNames inName (c :: run) cs
    else if c = '(' ∧ run ≠ [] then run.reverse :: calledNames inName [] cs
    else calledNames inName [] cs

/-- The names of the functions a formula calls, in upper case, in order, as often as called. -/
def functionNamesOf (formula : String) : List String :=
  (calledNames isLetter [] formula.toList).map fun name ↦ String.ofList (Text.uppercase name)

/-- The number of runs of capital letters in front of an opening parenthesis. -/
def capitalCalls (cs : List Char) : Nat := (calledNames isCapital [] cs).length

/-- The number of times that the word `IF`, in any case, stands in front of an opening
parenthesis; a text is read on after each of them. -/
def ifCalls : List Char → Nat
  | first :: second :: bracket :: cs =>
    if (Text.caselessVariants 'I').contains first && (Text.caselessVariants 'F').contains second
        && bracket == '(' then ifCalls cs + 1
    else ifCalls (second :: bracket :: cs)
  | _ => 0

/-- The word occurs somewhere in the text. -/
def holds (word : List Char) : List Char → Bool
  | [] => word.isEmpty
  | c :: cs => word.isPrefixOf (c :: cs) || holds word cs

def ofFormula (formula : String) : Features :=
  let cs := formula.toList
  let upper := Text.uppercase cs
  { length := cs.length
    functionCount := capitalCalls cs
    ifCount := ifCalls cs
    commaCount := cs.count ','
    crossSheet := cs.contains '!'
    complexFunctions := complexFunctionCatalogue.filter fun name ↦ holds name.toList upper
    logicalOperators := logicalOperatorCatalogue.filter fun name ↦
      holds (name.toList ++ ['(']) upper
    functionNames := functionNamesOf formula }

end Features

end FormulaAudit
