import FormulaAudit.Number.Numeral
import FormulaAudit.Path
import FormulaAudit.Text.LetterCase

/-!
Settings, and how they are read from the environment. A variable that is not set leaves its setting
at the standard value. Limits are signed and not restricted.
-/

set_option autoImplicit false

namespace FormulaAudit

structure Settings where
  /-- The directory for reports if none is asked for. -/
  exportDirectory : Path := .ofString "export"
  documentName : String := "formula_analysis.json"
  tableName : String := "formulas.csv"
  narrativeName : String := "analysis_report.md"
  logLevel : String := "INFO"
  /-- How many formulas a sample shows. -/
  sampleLimit : Int := 5
  mediumInventoryLimit : Int := 20
  complexInventoryLimit : Int := 15
  /-- How many characters of a formula a table shows. -/
  previewLimit : Int := 80

namespace Settings

def standard : Settings := {}

/-- A text where an integer is due. -/
structure NotAnInteger where
  text : String
  fault : Numeral.IntegerFault
deriving DecidableEq

def NotAnInteger.message (e : NotAnInteger) : String := e.fault.message e.text

/-- The integer that a variable holds. -/
def integerOf (value : Option String) (standard : Int) : Except NotAnInteger Int :=
  match value with
  | none => .ok standard
  | some text => (Numeral.readInteger text).mapError (NotAnInteger.mk text)

/-- The names of the variables that settings are read from. -/
def variableNames : List String :=
  ["SHEETSCOPE_EXPORT_DIR", "SHEETSCOPE_JSON_REPORT", "SHEETSCOPE_CSV_REPORT",
    "SHEETSCOPE_MARKDOWN_REPORT", "SHEETSCOPE_LOG_LEVEL", "SHEETSCOPE_SAMPLE_LIMIT",
    "SHEETSCOPE_MEDIUM_INVENTORY_LIMIT", "SHEETSCOPE_COMPLEX_INVENTORY_LIMIT",
    "SHEETSCOPE_FORMULA_PREVIEW_CHARS"]

/-- The settings of an environment; of several variables without an integer the first one counts. -/
def ofEnvironment (lookup : String → Option String) : Except NotAnInteger Settings := do
  let text (name standard : String) : String := (lookup name).getD standard
  let sampleLimit ← integerOf (lookup "SHEETSCOPE_SAMPLE_LIMIT") standard.sampleLimit
  let mediumInventoryLimit ←
    integerOf (lookup "SHEETSCOPE_MEDIUM_INVENTORY_LIMIT") standard.mediumInventoryLimit
  let complexInventoryLimit ←
    integerOf (lookup "SHEETSCOPE_COMPLEX_INVENTORY_LIMIT") standard.complexInventoryLimit
  let previewLimit ← integerOf (lookup "SHEETSCOPE_FORMULA_PREVIEW_CHARS") standard.previewLimit
  return {
    exportDirectory :=
      ((lookup "SHEETSCOPE_EXPORT_DIR").map Path.ofString).getD standard.exportDirectory
    documentName := text "SHEETSCOPE_JSON_REPORT" standard.documentName
    tableName := text "SHEETSCOPE_CSV_REPORT" standard.tableName
    narrativeName := text "SHEETSCOPE_MARKDOWN_REPORT" standard.narrativeName
    logLevel := Text.uppercaseText (text "SHEETSCOPE_LOG_LEVEL" standard.logLevel)
    sampleLimit, mediumInventoryLimit, complexInventoryLimit, previewLimit }

/-- Why variables make no settings. -/
inductive EnvironmentFault where
  | nulInVariable
  | illegalName
  | notAnInteger (e : NotAnInteger)
deriving DecidableEq

def EnvironmentFault.message : EnvironmentFault → String
  | nulInVariable => "embedded null byte"
  | illegalName => "illegal environment variable name"
  | notAnInteger e => e.message

/-- What keeps a variable out of an environment. -/
def variableFault? (pair : String × String) : Option EnvironmentFault :=
  if (pair.1 ++ pair.2).toList.contains '\x00' then some .nulInVariable
  else if pair.1.toList.contains '=' then some .illegalName
  else none

/-- The settings of an environment of given variables; of several of one name the last counts. -/
def ofVariables (given : List (String × String)) : Except EnvironmentFault Settings :=
  match given.findSome? variableFault? with
  | some fault => .error fault
  | none => (ofEnvironment fun name ↦ given.reverse.lookup name).mapError .notAnInteger

end Settings

end FormulaAudit
