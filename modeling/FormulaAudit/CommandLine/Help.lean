import FormulaAudit.CommandLine.Flag
import FormulaAudit.Settings
import FormulaAudit.Text.Pad
import FormulaAudit.Text.Template
import FormulaAudit.Text.Wrap

/-!
The help text. Explanations are templates over the properties of their flags, so a setting that an
explanation shows may hold directives too. They stand in a column of their own and are wrapped to
its width.
-/

set_option autoImplicit false

namespace FormulaAudit.CommandLine

def usageLines : List String :=
  ["usage: sheetscope [-h] [--output-dir OUTPUT_DIR] [--quiet]",
    "                  [--log-level \x7bDEBUG,INFO,WARNING,ERROR\x7d]",
    "                  file"]

/-- How far the explanations are indented. -/
def helpIndent : Nat := 24

def helpWidth : Nat := 54

/-- The template that says what a flag does. -/
def explanation (settings : Settings) : Flag → String
  | .help => "show this help message and exit"
  | .directory =>
    "Directory for the generated reports (default: " ++ settings.exportDirectory.toString ++ ")"
  | .quiet => "Do not print the analysis summary"
  | .logLevel => "Logging verbosity (default: " ++ settings.logLevel ++ ")"

/-- The properties of a flag that takes a value. -/
def properties (settings : Settings) (flag : Flag) : Text.Template.Entries :=
  let isLevel := flag = .logLevel
  [("option_strings", .texts (flag.longName :: flag.letter?.toList.map fun c ↦
      String.ofList ['-', c])),
    ("dest", .text (if isLevel then "log_level" else "output_dir")), ("nargs", .none),
    ("const", .none), ("default", if isLevel then .text settings.logLevel else .none),
    ("type", if isLevel then .text "upper" else .none),
    ("choices", if isLevel then .text (", ".intercalate logLevelChoices) else .none),
    ("required", .truth false), ("help", .text (explanation settings flag)), ("metavar", .none),
    ("container", .group), ("prog", .text "sheetscope")]

/-- The explanation of a flag, filled in. -/
def explain (settings : Settings) (flag : Flag) : Except Text.Template.Fault String :=
  let template := explanation settings flag
  if flag.takesValue then Text.Template.fill (properties settings flag) template else .ok template

/-- The ways to write a flag. -/
def invocation : Flag → String
  | .help => "-h, --help"
  | .directory => "--output-dir OUTPUT_DIR, -o OUTPUT_DIR"
  | .quiet => "--quiet, -q"
  | .logLevel => "--log-level \x7bDEBUG,INFO,WARNING,ERROR\x7d"

/-- A name and its explanation, side by side if there is room for the name. -/
def helpLines (name explanation : String) : List String :=
  let lines := Text.wrap helpWidth explanation
  let indented := lines.map (String.ofList (List.replicate helpIndent ' ') ++ ·)
  let head := "  " ++ name
  match lines with
  | first :: _ =>
    if head.length + 2 ≤ helpIndent then
      (Text.padRight helpIndent head ++ first) :: indented.tail
    else head :: indented
  | [] => [head]

/-- The whole help text, or what is wrong with the first explanation that cannot be filled in. -/
def helpText (settings : Settings) : Except Text.Template.Fault String := do
  let flags ← Flag.all.mapM fun flag ↦
    return helpLines (invocation flag) (← explain settings flag)
  let lines :=
    usageLines
      ++ ["", "SheetScope - Excel formula complexity analyzer", "", "positional arguments:"]
      ++ helpLines "file" "Path to the Excel workbook (.xlsx or .xlsm)"
      ++ ["", "options:"]
      ++ flags.flatten
  return "\n".intercalate lines ++ "\n"

/-- The answer to a faulty command line. -/
def usageError (message : String) : String :=
  "\n".intercalate usageLines ++ "\nsheetscope: error: " ++ message ++ "\n"

end FormulaAudit.CommandLine
