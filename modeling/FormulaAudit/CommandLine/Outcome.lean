import FormulaAudit.CommandLine.Arguments
import FormulaAudit.CommandLine.Help
import FormulaAudit.Request
import FormulaAudit.Run

/-!
What the command does: the texts it prints, its exit code and the files it leaves. A faulty command
line and a failed run have the exit code one. The command ends without an exit code if its settings
make no help text, if a flag is left without its value, and on a log level, a path or a span of time
that cannot be.
-/

set_option autoImplicit false

namespace FormulaAudit.CommandLine

/-- Why the command ends without an exit code. -/
inductive Abort where
  | help (f : Text.Template.Fault)
  | unknownLevel (name : String)
  | noLevel
  | noDirectory
  | failure (e : Failure)
deriving DecidableEq

def Abort.message : Abort → String
  | help f => f.message
  | unknownLevel name => "Unknown level: " ++ Text.quoted name
  | noLevel => "Level not an integer or a valid string: []"
  | noDirectory => "expected str, bytes or os.PathLike object, not list"
  | failure e => e.message

structure Outcome where
  files : FileSystem
  output : String := ""
  errorOutput : String := ""
  code : Except Abort Nat

/-- The log entries that a threshold lets through, a line each. -/
def logText (time : String) (threshold : LogLevel) (log : List LogEntry) : String :=
  String.join ((log.filter (·.isShown threshold)).map fun entry ↦ entry.line time ++ "\n")

/-- What is printed after a successful run. -/
def successText (settings : Settings) (quiet : Bool) (corpus : Corpus) (paths : ReportPaths) :
    String :=
  (if quiet then "" else corpus.summaryReport settings.sampleLimit ++ "\n\n")
    ++ "Analysis completed successfully!\nFiles generated:\n"
    ++ String.join (paths.toList.map fun path ↦ "  - " ++ path.toString ++ "\n")

/-- The failure is not one that the command reports. -/
def isUnreported : Failure → Bool
  | .file ⟨.nulInPath, _⟩ | .duration _ => true
  | .audit _ | .file _ => false

/-- The outcome of a failed run with a given log. -/
def failureOutcome (files : FileSystem) (log : String) (e : Failure) : Outcome :=
  if isUnreported e then { files, errorOutput := log, code := .error (.failure e) }
  else { files, errorOutput := log ++ "Error analyzing file: " ++ e.message ++ "\n", code := .ok 1 }

/-- Analyzes a file for reports that have no directory to go to. -/
def outcomeWithoutDirectory (fs : FileSystem) (time : String) (threshold : LogLevel)
    (path : Path) : Outcome :=
  let analysis := Analysis.ofFile .standard fs path
  let log := logText time threshold analysis.log
  match analysis.result with
  | .error e => failureOutcome fs log e
  | .ok _ => { files := fs, errorOutput := log, code := .error .noDirectory }

/-- Analyzes a file and writes its reports, into the directory of the settings if none is given. -/
def outcomeWithReports (settings : Settings) (fs : FileSystem) (now : Moment) (time : String)
    (threshold : LogLevel) (quiet : Bool) (path : Path) (directory : Option Path) : Outcome :=
  let run := Run.ofFile .standard settings fs path directory now
  let log := logText time threshold run.log
  match run.result with
  | .error e => failureOutcome run.files log e
  | .ok (corpus, paths) =>
    { files := run.files
      output := successText settings quiet corpus paths
      errorOutput := log
      code := .ok 0 }

/-- The least importance of the log entries to show. -/
def thresholdOf (settings : Settings) (level : Option FlagValue) : Except Abort LogLevel :=
  let ofName (name : String) : Except Abort LogLevel :=
    match LogLevel.ofName? name with
    | some threshold => .ok threshold
    | none => .error (.unknownLevel name)
  match level with
  | none => ofName (Text.uppercaseText settings.logLevel)
  | some (.text name) => ofName name
  | some .dropped => .error .noLevel

/-- The outcome of arguments that can be read. -/
def outcomeOfArguments (settings : Settings) (fs : FileSystem) (now : Moment) (time : String)
    (arguments : Arguments) : Outcome :=
  let path := Path.ofString arguments.file
  match thresholdOf settings arguments.logLevel with
  | .error abort => { files := fs, code := .error abort }
  | .ok threshold =>
    match arguments.directory with
    | some .dropped => outcomeWithoutDirectory fs time threshold path
    | some (.text directory) =>
      outcomeWithReports settings fs now time threshold arguments.quiet path
        (some (.ofString directory))
    | none => outcomeWithReports settings fs now time threshold arguments.quiet path none

/-- Runs the command on some words at a moment; `time` stands in front of each line of the log. -/
def outcome (settings : Settings) (fs : FileSystem) (now : Moment) (time : String)
    (words : List String) : Outcome :=
  match Arguments.ofWords words with
  | .error .help =>
    match helpText settings with
    | .ok text => { files := fs, output := text, code := .ok 0 }
    | .error f => { files := fs, code := .error (.help f) }
  | .error (.fault fault) =>
    { files := fs, errorOutput := usageError fault.message, code := .ok 1 }
  | .ok arguments => outcomeOfArguments settings fs now time arguments

end FormulaAudit.CommandLine
