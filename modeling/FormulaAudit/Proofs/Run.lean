import FormulaAudit.Proofs.Analysis
import FormulaAudit.Proofs.Report.Document
import FormulaAudit.Proofs.Report.Files
import FormulaAudit.Proofs.Report.Table

/-!
What a run that succeeds leaves behind. The document and the table that it writes can be read back,
and they list the formula cells of the workbook, each once, in the order of sheets, rows and columns
(`reports_list_formula_cells`). The order in which the workbook lists its cells does not matter.
-/

set_option autoImplicit false

namespace FormulaAudit

namespace FileSystem

/-- The list of all formulas in the document that a path leads to. -/
def formulasAt? (fs : FileSystem) (path : Path) : Option (List Json) :=
  ((fs.textAt? path).bind Json.parse?).bind (Json.listField? "all_formulas")

/-- The rows of the table that a path leads to. -/
def rowsAt? (fs : FileSystem) (path : Path) : Option (List (List String)) :=
  (fs.textAt? path).bind Csv.read

end FileSystem

namespace Corpus

theorem listField?_document (c : Corpus) (name : String) (generated : Moment) :
    (c.document name generated).listField? "all_formulas" = some (c.results.map (·.toJson)) := by
  rfl

end Corpus

namespace Run

variable {k : Classifier} {settings : Settings} {fs : FileSystem} {path : Path}
  {directory : Option Path} {generated : Moment} {w : Workbook} {corpus : Corpus}
  {paths : ReportPaths}

theorem result_eq_ok
    (hrun : (ofFile k settings fs path directory generated).result = .ok (corpus, paths)) :
    let reports :=
      corpus.writeReports fs settings (directory.getD settings.exportDirectory) path.stem generated
    (Analysis.ofFile k fs path).result = .ok corpus ∧ reports.result = .ok paths ∧
      (ofFile k settings fs path directory generated).files = reports.files := by
  intro reports
  rw [ofFile] at hrun ⊢
  cases hanalysis : (Analysis.ofFile k fs path).result with
  | error e => simp [hanalysis] at hrun
  | ok found =>
    simp only [hanalysis] at hrun ⊢
    cases hreports : (found.writeReports fs settings
        (directory.getD settings.exportDirectory) path.stem generated).result with
    | error e => simp [hreports, Except.map] at hrun
    | ok written =>
      rw [hreports] at hrun
      cases hrun
      exact ⟨rfl, hreports, rfl⟩

/-- The reports of a run can be read back. -/
theorem contents_eq (hnames : settings.HasPlainNames)
    (hrun : (ofFile k settings fs path directory generated).result = .ok (corpus, paths)) :
    let after := (ofFile k settings fs path directory generated).files
    after.formulasAt? paths.document = some (corpus.results.map (·.toJson)) ∧
      after.rowsAt? paths.table = some corpus.table := by
  intro after
  obtain ⟨-, hreports, hafter⟩ := result_eq_ok hrun
  obtain ⟨hdocument, htable⟩ := Corpus.textAt?_report hnames hreports
  rw [show after = _ from hafter, FileSystem.formulasAt?, FileSystem.rowsAt?, hdocument, htable]
  refine ⟨?_, corpus.read_tableReport_eq_table⟩
  rw [Option.bind_some, Corpus.documentReport, Json.parse?_toText, Option.bind_some,
    Corpus.listField?_document]

theorem results_eq (hopen : fs.openWorkbook path = .ok w)
    (hrun : (ofFile k settings fs path directory generated).result = .ok (corpus, paths)) :
    w.faults = [] ∧ corpus.results = w.formulaCells.map fun e ↦ k.classify (w.recordOf e) := by
  obtain ⟨hanalysis, -⟩ := result_eq_ok hrun
  rw [Analysis.result_ofFile hopen, Analysis.result_ofWorkbook_eq_ok] at hanalysis
  obtain ⟨hfaults, rfl, -⟩ := hanalysis
  refine ⟨hfaults, ?_⟩
  rw [Corpus.ofRecords, Corpus.ofResults, Workbook.records_eq, List.map_map]
  rfl

/-- The order in which cells are listed does not matter to the analysis. -/
theorem result_of_sameCells {fs' : FileSystem} {path' : Path} {v : Workbook}
    (hopen : fs.openWorkbook path = .ok w) (hopen' : fs'.openWorkbook path' = .ok v)
    (hsame : w.SameCells v) (hcells : w.DistinctPositions)
    (hanalysis : (Analysis.ofFile k fs path).result = .ok corpus) :
    (Analysis.ofFile k fs' path').result = .ok corpus := by
  obtain ⟨hrecords, hfaults⟩ := hsame.records_faults hcells
  rw [Analysis.result_ofFile hopen, Analysis.result_ofWorkbook_eq_ok] at hanalysis
  rw [Analysis.result_ofFile hopen', Analysis.result_ofWorkbook_eq_ok, hrecords, hfaults]
  exact hanalysis

/-- A run that succeeds reports each formula cell of the workbook once, in order, whatever the order
in which the workbook lists its cells. -/
theorem reports_list_formula_cells (hopen : fs.openWorkbook path = .ok w)
    (hcells : w.DistinctPositions) (hnames : settings.HasPlainNames)
    (hrun : (ofFile k settings fs path directory generated).result = .ok (corpus, paths)) :
    let after := (ofFile k settings fs path directory generated).files
    ∃ (entries : List FormulaCell) (value : FormulaCell → String),
      w.Lists entries ∧ w.ShowsValues entries value ∧
      after.formulasAt? paths.document = some (entries.map fun e ↦ .obj
        [("sheet", .str (w.titleAt e.sheet)), ("cell", .str e.cell.position.toText),
          ("formula", .str e.formula), ("value", .str (value e)),
          ("category", .str (k.category e.formula).name)]) ∧
      after.rowsAt? paths.table = some (tableHeadings :: entries.map fun e ↦
        [w.titleAt e.sheet, e.cell.position.toText, e.formula, (k.category e.formula).name,
          toString e.formula.length, toString (Features.ofFormula e.formula).functionCount]) ∧
      ∀ (fs' : FileSystem) (path' : Path) (v : Workbook),
        fs'.openWorkbook path' = .ok v → w.SameCells v →
        (Analysis.ofFile k fs' path').result = .ok corpus ∧
        ∀ settings' directory' generated' corpus' paths', settings'.HasPlainNames →
          (ofFile k settings' fs' path' directory' generated').result = .ok (corpus', paths') →
          let after' := (ofFile k settings' fs' path' directory' generated').files
          after'.formulasAt? paths'.document = after.formulasAt? paths.document ∧
            after'.rowsAt? paths'.table = after.rowsAt? paths.table := by
  intro after
  obtain ⟨hdocument, htable⟩ := contents_eq hnames hrun
  obtain ⟨hfaults, hresults⟩ := results_eq hopen hrun
  refine ⟨w.formulaCells, fun e ↦ (w.recordOf e).value, w.lists_formulaCells hcells,
    w.showsValues_recordOf hcells (w.valuesRead_of_faults hfaults), ?_, ?_, ?_⟩
  · rw [hdocument, hresults, List.map_map]
    exact congrArg some (List.map_congr_left fun e _ ↦ k.toJson_classify (w.recordOf e))
  · rw [htable, Corpus.table, hresults, List.map_map]
    exact congrArg (fun rows ↦ some (tableHeadings :: rows))
      (List.map_congr_left fun e _ ↦ Corpus.tableRow_classify k (w.recordOf e))
  · intro fs' path' v hopen' hsame
    have hanalysis := result_of_sameCells hopen hopen' hsame hcells (result_eq_ok hrun).1
    refine ⟨hanalysis, fun settings' directory' generated' corpus' paths' hnames' hrun' ↦ ?_⟩
    obtain ⟨hdocument', htable'⟩ := contents_eq hnames' hrun'
    obtain rfl := Except.ok.inj ((result_eq_ok hrun').1.symm.trans hanalysis)
    exact ⟨hdocument'.trans hdocument.symm, htable'.trans htable.symm⟩

/-! ### Runs over one file -/

/-- A run over that workbook, on the second of January. -/
def single (w : Workbook) : Run :=
  ofFile .standard .standard (withWorkbook w) (.ofString "b.xlsx") none ⟨⟨2024, 1, 2⟩, {}⟩

theorem openWorkbook_withWorkbook (w : Workbook) :
    (withWorkbook w).openWorkbook (.ofString "b.xlsx") = .ok w := rfl

theorem hasPlainNames_standard : Settings.standard.HasPlainNames := by
  unfold Settings.HasPlainNames Path.IsPlain
  decide

theorem ofDirectory_withWorkbook (w : Workbook) :
    Written.ofDirectory (withWorkbook w) (.ofString "export") =
      { files := (withWorkbook w).put ["export"] .directory,
        log := [Written.createdEntry (.ofString "export")] } := by
  have hlook : (withWorkbook w).look (.ofString "export") = .ok none := rfl
  have hmade : (withWorkbook w).makeDirectories (.ofString "export") =
      ((withWorkbook w).put ["export"] .directory, none) := by
    rw [FileSystem.makeDirectories]
    rfl
  rw [Written.ofDirectory, hlook]
  simp only [hmade]

theorem result_single (w : Workbook) (hfaults : w.faults = [])
    (hfull : (Corpus.ofRecords .standard w.records).isEmpty = false) :
    (single w).result =
      .ok (Corpus.ofRecords .standard w.records, .ofSettings .standard (.ofString "export")) := by
  have hanalysis : (Analysis.ofFile .standard (withWorkbook w) (.ofString "b.xlsx")).result =
      .ok (Corpus.ofRecords .standard w.records) := by
    rw [Analysis.result_ofFile (openWorkbook_withWorkbook w), Analysis.result_ofWorkbook_eq_ok]
    exact ⟨hfaults, rfl, hfull⟩
  rw [single, ofFile, hanalysis]
  generalize Corpus.ofRecords .standard w.records = corpus at hfull ⊢
  simp only
  rw [Corpus.writeReports, if_neg (by simp [hfull]),
    show none.getD Settings.standard.exportDirectory = Path.ofString "export" from rfl,
    ofDirectory_withWorkbook]
  rfl

/-- Cells out of order: a formula over a range, a formula, text that looks like one, a what-if table
and a formula without a text. -/
def scrambled : Workbook where
  sheets :=
    [{ name := "Data"
       cells :=
         [⟨⟨2, 1⟩, some (.array "SUM(B1:B2)"), .number, "3"⟩,
          ⟨⟨1, 2⟩, some (.plain "VLOOKUP(A1,C:D,2)"), .text, "x"⟩,
          ⟨⟨1, 1⟩, none, .text, "=== Totals ==="⟩] },
     { name := "Notes"
       cells :=
         [⟨⟨1, 2⟩, some (.plain ""), .number, ""⟩, ⟨⟨1, 1⟩, some .dataTable, .number, "7"⟩] }]

theorem reports_list_formula_cells_scrambled :
    ∃ corpus paths, (single scrambled).result = .ok (corpus, paths) ∧
      ∃ entries value, scrambled.Lists entries ∧ scrambled.ShowsValues entries value ∧
        (single scrambled).files.formulasAt? paths.document = some (entries.map fun e ↦ .obj
          [("sheet", .str (scrambled.titleAt e.sheet)), ("cell", .str e.cell.position.toText),
            ("formula", .str e.formula), ("value", .str (value e)),
            ("category", .str (Classifier.standard.category e.formula).name)]) := by
  have hfaults : scrambled.faults = [] := Workbook.faults_eq_nil_iff.mpr (by decide +kernel)
  have hcells : scrambled.DistinctPositions := by
    unfold Workbook.DistinctPositions Sheet.DistinctPositions
    decide
  have hformula : (⟨0, ⟨⟨1, 2⟩, some (.plain "VLOOKUP(A1,C:D,2)"), .text, "x"⟩,
      "VLOOKUP(A1,C:D,2)"⟩ : FormulaCell) ∈ scrambled.formulaCells :=
    ((Workbook.lists_formulaCells hcells).mem _).mpr
      ⟨_, rfl, by simp, by decide, _, rfl, .inl rfl⟩
  have hfull : (Corpus.ofRecords .standard scrambled.records).isEmpty = false := by
    rw [Workbook.records_eq]
    exact List.isEmpty_eq_false_iff.mpr
      (List.ne_nil_of_mem (List.mem_map_of_mem (List.mem_map_of_mem hformula)))
  have hrun := result_single scrambled hfaults hfull
  obtain ⟨entries, value, hlists, hvalues, hdocument, -⟩ :=
    reports_list_formula_cells (openWorkbook_withWorkbook scrambled) hcells hasPlainNames_standard
      hrun
  exact ⟨_, _, hrun, entries, value, hlists, hvalues, hdocument⟩

/-- Different names of which the last two go by one title. -/
def takenTitle : Workbook where
  sheets :=
    [{ name := "A,a" }, { name := "xa" },
     { name := "a,a1", cells := [⟨⟨1, 1⟩, some (.plain "B1"), .number, "1"⟩] },
     { name := "a,a", cells := [⟨⟨1, 1⟩, some (.plain "B2"), .number, "2"⟩] }]

/-- The formula on the last sheet is reported with the value of the formula on the sheet before. -/
theorem value_of_sheet_with_taken_title :
    takenTitle.sheetNames.Nodup ∧ takenTitle.DistinctPositions ∧
      Settings.standard.HasPlainNames ∧
      ∃ corpus paths, (single takenTitle).result = .ok (corpus, paths) ∧
        ∃ first last, (single takenTitle).files.formulasAt? paths.document = some [first, last] ∧
          last.textField? "formula" = some "B2" ∧ last.textField? "value" = some "1" ∧
          (Cell.valueOrNone ⟨⟨1, 1⟩, some (.plain "B2"), .number, "2"⟩).display = "2" := by
  have hfaults : takenTitle.faults = [] := by decide +kernel
  have hcells : takenTitle.DistinctPositions := by
    unfold Workbook.DistinctPositions Sheet.DistinctPositions
    decide
  have hrecords : takenTitle.records =
      [⟨"a,a1", "A1", "B1", "1", some 1, some 1⟩, ⟨"a,a1", "A1", "B2", "1", some 1, some 1⟩] := by
    decide +kernel
  have hrun := result_single takenTitle hfaults (by rw [hrecords]; rfl)
  have hdocument := (contents_eq hasPlainNames_standard hrun).1
  simp only [Corpus.ofRecords, Corpus.ofResults, hrecords, List.map_cons, List.map_nil,
    Classifier.toJson_classify] at hdocument
  exact ⟨by decide, hcells, hasPlainNames_standard, _, _, hrun, _, _, hdocument, rfl, rfl,
    by decide +kernel⟩

end Run

end FormulaAudit
