import FormulaAudit.Number.Numeral
import FormulaAudit.Number.Shortest
import FormulaAudit.Time.Stored

/-!
Values of cells: how they are read from the text that a workbook stores, how they are shown, and
which of them are formulas. A formula starts with an equals sign and holds something after it.
-/

set_option autoImplicit false

namespace FormulaAudit

inductive CellValue where
  | none
  | truth (b : Bool)
  | integer (n : Int)
  | decimal (x : Binary64)
  | text (s : String)
  | moment (m : Moment)
  | date (d : Date)
  | clock (c : Clock)
  | duration (d : Duration)
  /-- A formula over a range of cells. -/
  | arrayFormula (text : String)
  /-- A what-if table, which has no formula text. -/
  | dataTable
deriving DecidableEq

/-- The types in which a workbook stores values. -/
inductive ValueType where
  | number
  | text
  | truth
  | date
deriving DecidableEq

namespace CellValue

/-- The value as reports show it. -/
def display : CellValue → String
  | none => ""
  | truth b => if b then "TRUE" else "FALSE"
  | integer n => toString n
  | decimal x => x.shortest
  | text s => s
  | moment m => m.toText
  | date d => d.toText
  | clock c => c.toText
  | duration d => d.toText
  | arrayFormula s => s
  | dataTable => ""

/-- What follows the equals sign of a formula. -/
def afterEquals? : List Char → Option String
  | '=' :: c :: cs => some (String.ofList (c :: cs))
  | _ => .none

/-- The formula that a value writes, without its equals sign. -/
def formulaText? : CellValue → Option String
  | text s => afterEquals? s.toList
  | arrayFormula s => afterEquals? s.toList
  | _ => .none

/-- The formula of a cell with a value. Text in a cell that is no formula cell may look like one. -/
def cellFormula? (isFormulaCell : Bool) (v : CellValue) : Option String :=
  if isFormulaCell then v.formulaText? else .none

/-- A whole number, or a number with a point or an exponent. -/
def readNumber? (stored : String) : Option CellValue :=
  if stored.toList.any fun c ↦ c == '.' || c == 'e' || c == 'E' then
    (Numeral.binary64? stored).map decimal
  else (Numeral.integer? stored).map integer

/-- Why a stored text stands for no value. -/
inductive Fault where
  | malformed
  | duration (f : Duration.Fault)
deriving DecidableEq

/-- The value, if there is one. -/
def orMalformed : Option CellValue → Except Fault CellValue
  | some v => .ok v
  | .none => .error .malformed

/-- A date, a time of day or both with the letter `T` between them, or else a span of time. Text
behind a date or a time is not looked at. -/
def readDate (stored : String) : Except Fault CellValue :=
  let cs := stored.toList.map Numeral.plainDigit
  let dateFields := Date.takeStored? cs
  let rest := (dateFields.map (·.2)).getD cs
  let rest := match rest with
    | 'T' :: rest => rest
    | rest => rest
  match dateFields.map (·.1), Clock.takeStored? rest with
  | some d, some c => if d.isValid && c.isValid then .ok (moment ⟨d, c⟩) else .error .malformed
  | some d, .none => if d.isValid then .ok (date d) else .error .malformed
  | .none, some c => if c.isValid then .ok (clock c) else .error .malformed
  | .none, .none =>
    match Duration.takeStored? cs with
    | some (.ok d) => .ok (duration d)
    | some (.error f) => .error (.duration f)
    | .none => .error .malformed

/-- The value that a stored text stands for; the empty text stands for no value. -/
def read (type : ValueType) (stored : String) : Except Fault CellValue :=
  if stored = "" then .ok none
  else match type with
    | .number => orMalformed (readNumber? stored)
    | .text => .ok (text stored)
    | .truth => orMalformed ((Numeral.integer? stored).map fun n ↦ truth (n != 0))
    | .date => readDate stored

end CellValue

end FormulaAudit
