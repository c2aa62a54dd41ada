import FormulaAudit.Analysis
import FormulaAudit.Report.Files

/-!
A run over one workbook: the analysis, and the report files if the analysis succeeds. A failed
analysis writes nothing.
-/

set_option autoImplicit false

namespace FormulaAudit

/-- What a run leaves behind. -/
structure Run where
  files : FileSystem
  log : List LogEntry
  result : Except Failure (Corpus × ReportPaths)

/-- Analyzes a workbook and writes its reports into a directory, or into the one of the settings. -/
def Run.ofFile (k : Classifier) (settings : Settings) (fs : FileSystem) (path : Path)
    (directory : Option Path) (generated : Moment) : Run :=
  let analysis := Analysis.ofFile k fs path
  match analysis.result with
  | .error e => ⟨fs, analysis.log, .error e⟩
  | .ok corpus =>
    let directory := directory.getD settings.exportDirectory
    let reports := corpus.writeReports fs settings directory path.stem generated
    ⟨reports.files, analysis.log ++ reports.log, reports.result.map fun paths ↦ (corpus, paths)⟩

end FormulaAudit
