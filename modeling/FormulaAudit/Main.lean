import FormulaAudit.CommandLine.Outcome
import FormulaAudit.Json.Parser
import FormulaAudit.Workbook.Description
import Std.Time.Zoned

/-!
The command. It looks at the places that a run may touch, lets the command line decide on them as a
value, prints what that answers and carries out the changes. A workbook file holds the JSON
description of a workbook.
-/

set_option autoImplicit false

namespace FormulaAudit.CommandLine

/-- The content of a file with a given text. -/
def contentOf (text : String) : FileContent :=
  match (Json.parse? text).bind Workbook.ofJson? with
  | some w => .workbook w
  | none => .text text

/-- What there is at a path. A file that holds no text counts as an empty one. -/
def lookAt (path : Path) : IO (Option Node) := do
  try
    let real ← IO.FS.realPath path.toString
    if ← real.isDir then return some .directory
    let text ← try IO.FS.readFile real catch _ => pure ""
    return some (.file (contentOf text))
  catch _ => return none

/-- The file system with what there is on the way to a path. -/
def lookAlong (fs : FileSystem) (path : Path) : IO FileSystem :=
  (List.range (path.parts.length + 1)).foldlM (fun fs n ↦ do
    let path := { path with parts := path.parts.take n }
    let .ok place := fs.locate path | return fs
    if (fs.node? place).isSome then return fs
    let some node ← lookAt path | return fs
    return fs.put place node) fs

/-- The paths that a run with some arguments may touch. -/
def pathsOf (settings : Settings) (words : List String) : List Path :=
  match Arguments.ofWords words with
  | .error _ => []
  | .ok arguments =>
    let directory := match arguments.directory with
      | some (.text text) => .ofString text
      | _ => settings.exportDirectory
    .ofString arguments.file :: (ReportPaths.ofSettings settings directory).toList

/-- Makes a directory or writes a file. -/
def carryOut (change : Place × Node) : IO Unit := do
  let path := "/" ++ "/".intercalate change.1
  match change.2 with
  | .directory => IO.FS.createDirAll path
  | .file (.text text) => IO.FS.writeFile path text
  | .file (.workbook _) => return

def currentMoment : IO Moment := do
  let now ← Std.Time.PlainDateTime.now
  return {
    date := { year := now.year.toInt.toNat, month := now.month.toNat, day := now.day.toNat }
    clock := {
      hour := now.hour.val.toNat
      minute := now.minute.val.toNat
      second := now.second.val.toNat
      microsecond := now.nanosecond.val.toNat / 1000 } }

def run (settings : Settings) (words : List String) : IO UInt32 := do
  let here := Path.ofString (← IO.currentDir).toString
  let before ← (pathsOf settings words).foldlM lookAlong (.emptyAt here.parts)
  let now ← currentMoment
  let done := outcome settings before now now.toHeading words
  (done.files.changesFrom before).forM carryOut
  IO.print done.output
  IO.eprint done.errorOutput
  match done.code with
  | .ok code => return code.toUInt32
  | .error abort =>
    IO.eprintln abort.message
    return 1

end FormulaAudit.CommandLine

open FormulaAudit in
/-- Reads the settings from the environment and runs the command. -/
def main (words : List String) : IO UInt32 := do
  let values ← Settings.variableNames.mapM fun name ↦ return (name, ← IO.getEnv name)
  match Settings.ofEnvironment fun name ↦ (values.lookup name).join with
  | .ok settings => CommandLine.run settings words
  | .error e =>
    IO.eprintln e.message
    return 1
