import FormulaAudit.Corpus
import FormulaAudit.Failure
import FormulaAudit.Log
import FormulaAudit.Workbook.Format
import FormulaAudit.Workbook.Records

/-!
The analysis of a workbook file: from a path to the corpus of its formulas, with the log of how it
got there. An analysis fails if there is no file, if the file cannot be read as a workbook, or if no
cell holds a formula; also if a name is too long to look for, or a span of time too long to hold.
-/

set_option autoImplicit false

namespace FormulaAudit

/-- The corpus of some records, unless there are none. -/
def analyzeRecords (k : Classifier) (records : List Record) : Except AuditError Corpus :=
  let corpus := Corpus.ofRecords k records
  if corpus.isEmpty then .error (.emptyCorpus .analysis) else .ok corpus

namespace FileSystem

/-- The workbook in a file. Its cells are not looked at yet. -/
def openWorkbook (fs : FileSystem) (path : Path) : Except Failure Workbook :=
  match fs.look path with
  | .error e => .error (.file e)
  | .ok (some (.file content)) =>
    match Workbook.formatFault? path, content with
    | some fault, _ => .error (.audit (.inputUnreadable path (some fault.reason)))
    | none, .text _ => .error (.audit (.inputUnreadable path (some Unreadable.notAnArchive.reason)))
    | none, .workbook w => .ok w
  | .ok _ => .error (.audit (.inputNotFound path))

end FileSystem

/-- The failure of reading a workbook at a path that a fault in it makes. -/
def CellValue.Fault.failure (path : Path) : CellValue.Fault → Failure
  | malformed => .audit (.inputUnreadable path (some (Unreadable.malformedCell path).reason))
  | duration f => .duration f

/-- The records of a workbook that was opened at a path. One fault in it spoils them all. -/
def Workbook.readRecords (w : Workbook) (path : Path) : Except Failure (List Record) :=
  match w.faults with
  | [] => .ok w.records
  | fault :: _ => .error (fault.failure path)

/-- The records of the workbook in a file. -/
def FileSystem.readRecords (fs : FileSystem) (path : Path) : Except Failure (List Record) := do
  let w ← fs.openWorkbook path
  w.readRecords path

namespace Classified

/-- How a record got its category. -/
def logEntry (r : Classified) : LogEntry :=
  let evidence := match r.evidence with
    | .rule name => " by pattern '" ++ name ++ "'"
    | .score points => " by score " ++ toString points
  ⟨.debug, .classifier, r.record.address ++ ": " ++ r.category.name ++ evidence⟩

end Classified

namespace Corpus

def categorizedEntry (c : Corpus) : LogEntry :=
  let count (category : Category) := category.label ++ " " ++ toString (c.count category)
  ⟨.info, .tally, "Categorized " ++ toString c.total ++ " formulas: "
    ++ ", ".intercalate (Category.all.map count)⟩

def totalEntry (c : Corpus) : LogEntry :=
  ⟨.info, .analyzer, "Total formulas extracted: " ++ toString c.total ++ " across "
    ++ toString c.sheetCount ++ " sheets, " ++ toString c.functionNames.length
    ++ " unique functions"⟩

end Corpus

namespace Workbook

/-- The entries for the records of a sheet, one by one, and for the sheet as a whole. -/
def sheetEntries (k : Classifier) (titled : List (String × Sheet)) (title : String)
    (sheet : Sheet) : List LogEntry :=
  let records := sheetRecords titled title sheet
  let whole : LogEntry :=
    if records.isEmpty then ⟨.warning, .workbook, "Sheet '" ++ title ++ "' has no formulas"⟩
    else
      ⟨.info, .workbook, "Sheet '" ++ title ++ "': " ++ toString records.length ++ " formulas"⟩
  records.map (fun record ↦ (k.classify record).logEntry) ++ [whole]

/-- The entries for all sheets of a workbook. -/
def entries (w : Workbook) (k : Classifier) : List LogEntry :=
  let titled := w.titledSheets
  titled.flatMap fun (title, sheet) ↦ sheetEntries k titled title sheet

def foundEntry (w : Workbook) : LogEntry :=
  ⟨.info, .analyzer, "Found " ++ toString w.sheets.length ++ " worksheets: "
    ++ ", ".intercalate w.sheetNames⟩

end Workbook

/-- What an analysis found, or why it failed, and its log. -/
structure Analysis where
  log : List LogEntry
  result : Except Failure Corpus

namespace Analysis

def startEntry (path : Path) : LogEntry :=
  ⟨.info, .analyzer, "Analyzing Excel file: " ++ path.toString⟩

/-- The analysis of a workbook that was opened at a path. -/
def ofWorkbook (k : Classifier) (path : Path) (w : Workbook) : Analysis :=
  match w.readRecords path with
  | .error e => ⟨[], .error e⟩
  | .ok records =>
    let corpus := Corpus.ofRecords k records
    let log := w.entries k ++ [corpus.categorizedEntry]
    if corpus.isEmpty then ⟨log, .error (.audit (.emptyCorpus (.workbook path)))⟩
    else ⟨log ++ [corpus.totalEntry], .ok corpus⟩

/-- The analysis of the workbook in a file. -/
def ofFile (k : Classifier) (fs : FileSystem) (path : Path) : Analysis :=
  match fs.openWorkbook path with
  | .error e => ⟨[startEntry path], .error e⟩
  | .ok w =>
    let analysis := ofWorkbook k path w
    { analysis with log := startEntry path :: w.foundEntry :: analysis.log }

end Analysis

end FormulaAudit
