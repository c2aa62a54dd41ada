import FormulaAudit.Failure
import FormulaAudit.Log
import FormulaAudit.Report.Document
import FormulaAudit.Report.Narrative
import FormulaAudit.Report.Table

/-!
The report files. All three reports are made before the first one is written; they are written one
after another into one directory, which is made if it is not there. If one cannot be written, those
before it stay.
-/

set_option autoImplicit false

namespace FormulaAudit

/-- Where the reports are. -/
structure ReportPaths where
  document : Path
  table : Path
  narrative : Path
deriving DecidableEq

namespace ReportPaths

/-- The paths in the order in which they are announced. -/
def toList (p : ReportPaths) : List Path := [p.narrative, p.document, p.table]

def ofSettings (settings : Settings) (directory : Path) : ReportPaths where
  document := directory.join (.ofString settings.documentName)
  table := directory.join (.ofString settings.tableName)
  narrative := directory.join (.ofString settings.narrativeName)

end ReportPaths

/-- Named texts with one more; a name that is there keeps its place and takes the new text. -/
def putText (name text : String) : List (String × String) → List (String × String)
  | [] => [(name, text)]
  | (other, old) :: texts =>
    if other = name then (other, text) :: texts else (other, old) :: putText name text texts

/-- The texts of all reports by file name, in the order of writing. -/
def Corpus.reportTexts (c : Corpus) (settings : Settings) (name : String) (generated : Moment) :
    List (String × String) :=
  [(settings.documentName, c.documentReport name generated),
    (settings.tableName, c.tableReport),
    (settings.narrativeName, c.narrativeReport settings name generated)].foldl
      (fun texts (fileName, text) ↦ putText fileName text texts) []

/-- What came of writing files: the file system afterwards, the entries for what was done, and the
error that ended it early. -/
structure Written where
  files : FileSystem
  log : List LogEntry := []
  error : Option FileError := none

namespace Written

def wroteEntry (path : Path) : LogEntry := ⟨.info, .reports, "Wrote " ++ path.toString⟩

def createdEntry (directory : Path) : LogEntry :=
  ⟨.info, .reports, "Created export directory: " ++ directory.toString⟩

/-- Writes texts into a directory, up to the first one that cannot be written. -/
def ofTexts (fs : FileSystem) (directory : Path) : List (String × String) → Written
  | [] => { files := fs }
  | (name, text) :: texts =>
    let path := directory.join (.ofString name)
    match fs.write path text with
    | .error e => { files := fs, error := some e }
    | .ok fs =>
      let rest := ofTexts fs directory texts
      { rest with log := wroteEntry path :: rest.log }

/-- Makes a directory unless something is there. -/
def ofDirectory (fs : FileSystem) (directory : Path) : Written :=
  match fs.look directory with
  | .error e => { files := fs, error := some e }
  | .ok (some _) => { files := fs }
  | .ok none =>
    match fs.makeDirectories directory with
    | (fs, some e) => { files := fs, error := some e }
    | (fs, none) => { files := fs, log := [createdEntry directory] }

end Written

/-- What came of writing the reports. -/
structure ReportFiles where
  files : FileSystem
  log : List LogEntry
  result : Except Failure ReportPaths

/-- Writes the reports on a corpus. -/
def Corpus.writeReports (c : Corpus) (fs : FileSystem) (settings : Settings) (directory : Path)
    (name : String) (generated : Moment) : ReportFiles :=
  if c.isEmpty then ⟨fs, [], .error (.audit (.emptyCorpus .reportFiles))⟩
  else
    let made := Written.ofDirectory fs directory
    match made.error with
    | some e => ⟨made.files, made.log, .error (.file e)⟩
    | none =>
      let written :=
        Written.ofTexts made.files directory (c.reportTexts settings name generated)
      match written.error with
      | some e => ⟨written.files, made.log ++ written.log, .error (.file e)⟩
      | none =>
        ⟨written.files, made.log ++ written.log, .ok (.ofSettings settings directory)⟩

end FormulaAudit
