import FormulaAudit.Json.Basic
import FormulaAudit.Path
import FormulaAudit.Text.LetterCase
import FormulaAudit.Validation.IntegerText

/-!
Checking data that comes from outside, field by field. Reading goes on after a defect, so that all
defects are found, each with the place where it is. Integers may be written in several ways; nothing
else takes the place of a text.
-/

set_option autoImplicit false

namespace FormulaAudit.Validation

inductive Defect where
  | missing
  | notText
  | notAnInteger
  /-- The text writes no integer. -/
  | noIntegerText
  | notFinite
  /-- The number is too great in size to stand for an integer. -/
  | tooGreat
  | fractional
  | notATruthValue
  /-- The text or number stands for no truth value. -/
  | noTruthText
  | notAList
  | notAPath
deriving DecidableEq

def Defect.code : Defect → String
  | missing => "missing"
  | notText => "string_type"
  | notAnInteger => "int_type"
  | noIntegerText => "int_parsing"
  | notFinite => "finite_number"
  | tooGreat => "int_parsing_size"
  | fractional => "int_from_float"
  | notATruthValue => "bool_type"
  | noTruthText => "bool_parsing"
  | notAList => "tuple_type"
  | notAPath => "path_type"

/-- A defect and the field that has it. Items of a list are counted behind a dot. -/
structure FieldDefect where
  location : String
  defect : Defect
deriving DecidableEq

/-- A value, or all that is wrong with it. -/
inductive Checked (α : Type) where
  | valid (value : α)
  | invalid (defects : List FieldDefect)

namespace Checked

variable {α β : Type}

def map (f : α → β) : Checked α → Checked β
  | valid a => valid (f a)
  | invalid defects => invalid defects

/-- Both a function and its argument, or the defects of either. -/
def apply : Checked (α → β) → Checked α → Checked β
  | valid f, x => x.map f
  | invalid defects, valid _ => invalid defects
  | invalid defects, invalid more => invalid (defects ++ more)

end Checked

variable {α : Type}

/-- Reads the value of a field that is at a given place. -/
abbrev FieldReader (α : Type) := (location : String) → Json → Checked α

def fail (location : String) (defect : Defect) : Checked α := .invalid [⟨location, defect⟩]

def orFail (location : String) : Except Defect α → Checked α
  | .ok a => .valid a
  | .error defect => fail location defect

def text : FieldReader String
  | _, .str s => .valid s
  | location, _ => fail location .notText

def path : FieldReader Path
  | _, .str s => .valid (.ofString s)
  | location, _ => fail location .notAPath

/-- Binary numbers count as integers below this size only. -/
def wholeBound : Int := 9223372036854775808

/-- The integer that a binary number is, or why it is none. -/
def integerOfNumber (x : Binary64) : Except Defect Int :=
  match x.floor? with
  | none => .error .notFinite
  | some n =>
    if x.ceil? ≠ some n then .error .fractional
    else if n ≤ -wholeBound ∨ wholeBound ≤ n then .error .tooGreat
    else .ok n

def defectOfText : IntegerTextFault → Defect
  | .malformed => .noIntegerText
  | .tooLong => .tooGreat

def integer : FieldReader Int
  | _, .int n => .valid n
  | _, .bool b => .valid (if b then 1 else 0)
  | location, .decimal negative d =>
    orFail location (integerOfNumber (d.toBinary64 negative))
  | location, .str s => orFail location ((integerOfText s).mapError defectOfText)
  | location, _ => fail location .notAnInteger

/-- An integer, or none. -/
def optionalInteger : FieldReader (Option Int)
  | _, .null => .valid none
  | location, j => (integer location j).map some

def trueTexts : List String := ["1", "on", "t", "true", "y", "yes"]

def falseTexts : List String := ["0", "off", "f", "false", "n", "no"]

/-- The truth value of one and of zero. Integers of 64 bits stand for no other one, and greater ones
for nothing. -/
def truthOfInteger (n : Int) : Except Defect Bool :=
  if n = 1 then .ok true
  else if n = 0 then .ok false
  else if n < -wholeBound ∨ wholeBound ≤ n then .error .notATruthValue
  else .error .noTruthText

/-- The truth value that a word stands for in any case. -/
def truthOfText? (s : String) : Option Bool :=
  let word := Text.lowercaseText s
  if word ∈ trueTexts then some true else if word ∈ falseTexts then some false else none

def truth : FieldReader Bool
  | _, .bool b => .valid b
  | location, .int n => orFail location (truthOfInteger n)
  | location, .decimal negative d =>
    match integerOfNumber (d.toBinary64 negative) with
    | .ok n => orFail location (truthOfInteger n)
    | .error _ => fail location .notATruthValue
  | location, .str s => orFail location ((truthOfText? s).elim (.error .noTruthText) .ok)
  | location, _ => fail location .notATruthValue

/-- The items of a list, the first of them with a given number. -/
def items (item : FieldReader α) (location : String) : (first : Nat) → List Json → Checked (List α)
  | _, [] => .valid []
  | n, j :: js =>
    ((item (location ++ "." ++ toString n) j).map List.cons).apply (items item location (n + 1) js)

def texts : FieldReader (List String)
  | location, .arr js => items text location 0 js
  | location, _ => fail location .notAList

/-- A field that has to be there. -/
def required (reader : FieldReader α) (key : String) (j : Json) : Checked α :=
  match j.field? key with
  | some value => reader key value
  | none => fail key .missing

/-- A field with a value that stands for it where it is not there. -/
def withDefault (reader : FieldReader α) (standard : α) (key : String) (j : Json) : Checked α :=
  match j.field? key with
  | some value => reader key value
  | none => .valid standard

end FormulaAudit.Validation
