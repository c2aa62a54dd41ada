import FormulaAudit.CommandLine.Outcome
import FormulaAudit.Proofs.MigrationPlan.Coverage
import FormulaAudit.Proofs.Report.Changes
import FormulaAudit.Proofs.Run

/-!
How the command ends. Its exit code is zero exactly if the run succeeds, and one exactly if the
analysis fails or a file cannot be used; nothing that is asked of a corpus on the way is refused
(`answersAll_of_result`). A failed analysis leaves everything as it was, and a run that succeeds
changes its reports and the directories made for them only (`outcome_settled`). Two faults get past
the exit codes: a span of time that is too long to hold (`outcome_without_code`), and, where a double
hyphen is dropped as the value of a flag, a directory flag that is left without its value
(`outcome_of_dropped_directory`).
-/

set_option autoImplicit false

namespace FormulaAudit

/-! ### What is asked of a corpus -/

/-- Nothing that reports and summary ask of the corpus is refused or without a number. -/
structure Corpus.AnswersAll (c : Corpus) (settings : Settings) (name : String)
    (generated : Moment) : Prop where
  percentage (category : Category) : c.requestPercentage category = .ok (c.percentage category)
  plan : c.requestPlan = .ok c.migrationPlan
  coverage : ∀ phase ∈ c.migrationPlan.phases,
    ∃ share, FormulaAudit.coverage phase.target c.total = .ok share
  summary : c.requestSummary settings.sampleLimit = .ok (c.summaryReport settings.sampleLimit)
  narrative : c.requestNarrative settings name generated =
    .ok (c.narrativeReport settings name generated)

namespace Analysis

variable {k : Classifier} {fs : FileSystem} {path : Path} {corpus : Corpus}

theorem isEmpty_of_result (h : (ofFile k fs path).result = .ok corpus) :
    corpus.isEmpty = false := by
  obtain ⟨w, -, hformulas, rfl⟩ := result_eq_ok_iff.mp h
  rw [Tally.aggregate_eq, Corpus.isEmpty_ofRecords, List.isEmpty_eq_false_iff, ne_eq,
    Workbook.records_eq_nil_iff]
  exact not_not.mpr hformulas

theorem answersAll_of_result (h : (ofFile k fs path).result = .ok corpus) (settings : Settings)
    (name : String) (generated : Moment) : corpus.AnswersAll settings name generated := by
  have hfull := isEmpty_of_result h
  obtain ⟨w, -, -, rfl⟩ := result_eq_ok_iff.mp h
  have hanswer {α : Type} (purpose : Purpose) (answer : α) :
      (Tally.aggregate k w.records).unlessEmpty purpose answer = .ok answer := by
    rw [Corpus.unlessEmpty, hfull]
    rfl
  have hsummary := Tally.summarizes_aggregate k w.records
  exact ⟨fun _ ↦ hanswer _ _, hanswer _ _, Corpus.exists_coverage hsummary hfull, hanswer _ _,
    hanswer _ _⟩

end Analysis

namespace Run

variable {settings : Settings} {fs : FileSystem} {path directory : Path} {now : Moment}
  {failure : Failure}

/-- A run fails with the analysis, before anything is written, or with a file; and for a span of time
only if the workbook at the path has one that is too long to hold. -/
theorem failure_cases (hdirectory : directory.hasNul = false) (hnames : settings.NamesFreeOfNul)
    (h : (ofFile .standard settings fs path (some directory) now).result = .error failure) :
    (∃ e, failure = .audit e ∧ (ofFile .standard settings fs path (some directory) now).files = fs) ∨
      (∃ e, failure = .file e ∧ e.fault ≠ .nulInPath) ∨
      ∃ fault, failure = .duration fault ∧ ¬ Analysis.SpansFitAt fs path := by
  cases hanalysis : (Analysis.ofFile .standard fs path).result with
  | ok corpus =>
    have hreports : (corpus.writeReports fs settings directory path.stem now).result =
        .error failure := by
      simp only [ofFile, hanalysis, Option.getD_some] at h
      cases hresult : (corpus.writeReports fs settings directory path.stem now).result with
      | ok paths => simp [hresult, Except.map] at h
      | error e => simpa [hresult, Except.map] using h
    exact .inr (.inl (Corpus.exists_fault_of_failure (Analysis.isEmpty_of_result hanalysis)
      hdirectory hnames hreports))
  | error e =>
    obtain ⟨hfiles, hresult⟩ := ofFile_of_failure hanalysis settings (some directory) now
    obtain rfl := Except.error.inj (hresult.symm.trans h)
    cases Analysis.settles_of_eq hanalysis with
    | nameTooLong => exact .inr (.inl ⟨_, rfl, by simp⟩)
    | notFound | unreadable | empty => exact .inl ⟨_, rfl, hfiles⟩
    | duration hfile hspans fault =>
      exact .inr (.inr ⟨fault, rfl, fun hfit ↦ hspans (hfit _ hfile)⟩)

end Run

namespace CommandLine

/-! ### Runs with a directory -/

/-- The directory for the reports, unless the flag for it is left without its value. -/
def Arguments.directoryFor? (arguments : Arguments) (settings : Settings) : Option Path :=
  match arguments.directory with
  | none => some settings.exportDirectory
  | some (.text directory) => some (.ofString directory)
  | some .dropped => none

/-- What standard output has after a run that succeeds. -/
def announcement (quiet : Bool) (summary : String) (paths : ReportPaths) : String :=
  (if quiet then "" else summary ++ "\n\n") ++ "Analysis completed successfully!\nFiles generated:\n"
    ++ "  - " ++ paths.narrative.toString ++ "\n" ++ "  - " ++ paths.document.toString ++ "\n"
    ++ "  - " ++ paths.table.toString ++ "\n"

/-- The outcome for the result of a run of the file at a path, with a directory for its reports. -/
structure Outcome.Ends (o : Outcome) (result : Except Failure (Corpus × ReportPaths))
    (settings : Settings) (fs : FileSystem) (quiet : Bool) (path directory : Path) : Prop where
  code_zero : o.code = .ok 0 ↔ ∃ done, result = .ok done
  code_one : o.code = .ok 1 ↔
    (∃ e, result = .error (.audit e)) ∨ ∃ e, result = .error (.file e)
  other (hzero : o.code ≠ .ok 0) (hone : o.code ≠ .ok 1) : ∃ fault,
    o.code = .error (.failure (.duration fault)) ∧ result = .error (.duration fault) ∧
      ¬ Analysis.SpansFitAt fs path
  unchanged {e : AuditError} (haudit : result = .error (.audit e)) :
    o.files = fs ∧ o.output = ""
  output {corpus : Corpus} {paths : ReportPaths} (hrun : result = .ok (corpus, paths)) :
    ∃ summary, corpus.requestSummary settings.sampleLimit = .ok summary ∧
      o.output = announcement quiet summary paths
  changes {corpus : Corpus} {paths : ReportPaths} (hrun : result = .ok (corpus, paths)) :
    o.files.here = fs.here ∧ ∀ place, o.files.node? place = fs.node? place ∨
      (∃ report ∈ paths.toList, o.files.locate report = .ok place) ∨
      fs.node? place = none ∧ o.files.node? place = some .directory ∧
        ∃ front, front <+: directory.parts ∧
          o.files.locate { directory with parts := front } = .ok place

variable {settings : Settings} {fs : FileSystem} {now : Moment} {time : String}
  {threshold : LogLevel} {quiet : Bool} {path directory : Path}

theorem successText_eq (settings : Settings) (quiet : Bool) (corpus : Corpus)
    (paths : ReportPaths) : successText settings quiet corpus paths =
      announcement quiet (corpus.summaryReport settings.sampleLimit) paths := by
  simp only [successText, announcement, ReportPaths.toList, String.join, List.map_cons, List.map_nil,
    List.foldl_cons, List.foldl_nil, String.empty_append, String.append_assoc]

theorem isUnreported_file {e : FileError} (he : e.fault ≠ .nulInPath) :
    isUnreported (.file e) = false := by
  obtain ⟨fault, path⟩ := e
  cases fault with
  | nulInPath => exact absurd rfl he
  | missing | alreadyThere | notADirectory | isADirectory | nameTooLong => rfl

theorem ends_outcomeWithReports (fs : FileSystem) (now : Moment) (time : String)
    (threshold : LogLevel) (quiet : Bool) (path : Path) (hdirectory : directory.hasNul = false)
    (hnames : settings.NamesFreeOfNul) :
    (outcomeWithReports settings fs now time threshold quiet path (some directory)).Ends
      (Run.ofFile .standard settings fs path (some directory) now).result settings fs quiet path
      directory := by
  rw [outcomeWithReports]
  cases hresult : (Run.ofFile .standard settings fs path (some directory) now).result with
  | ok done =>
    obtain ⟨corpus, paths⟩ := done
    obtain ⟨hanalysis, hreports, hfiles⟩ := Run.result_eq_ok hresult
    have hanswers := Analysis.answersAll_of_result hanalysis settings path.stem now
    refine ⟨by simp, by simp, fun hzero ↦ absurd rfl hzero, nofun, ?output, ?changes⟩
    case output =>
      rintro _ _ ⟨⟩
      exact ⟨_, hanswers.summary, successText_eq settings quiet corpus paths⟩
    case changes =>
      rintro _ _ ⟨⟩
      simp only [hfiles]
      exact Corpus.changes_of_success hreports
  | error failure =>
    rcases Run.failure_cases hdirectory hnames hresult with
      ⟨e, rfl, hfiles⟩ | ⟨e, rfl, he⟩ | ⟨fault, rfl, hspans⟩
    · simp only [failureOutcome, isUnreported, hfiles, Bool.false_eq_true, if_false]
      exact ⟨by simp, by simp, fun _ hone ↦ absurd rfl hone, fun _ ↦ ⟨rfl, rfl⟩, nofun, nofun⟩
    · simp only [failureOutcome, isUnreported_file he, Bool.false_eq_true, if_false]
      exact ⟨by simp, by simp, fun _ hone ↦ absurd rfl hone, nofun, nofun, nofun⟩
    · simp only [failureOutcome, isUnreported, if_true]
      exact ⟨by simp, by simp, fun _ _ ↦ ⟨fault, rfl, rfl, hspans⟩, nofun, nofun, nofun⟩

/-! ### Runs without one -/

/-- The outcome of an analysis whose reports have no directory to go to. -/
structure Outcome.EndsEarly (o : Outcome) (result : Except Failure Corpus) (fs : FileSystem)
    (path : Path) : Prop where
  unchanged : o.files = fs ∧ o.output = ""
  code_zero : o.code ≠ .ok 0
  code_one : o.code = .ok 1 ↔
    (∃ e, result = .error (.audit e)) ∨ ∃ e, result = .error (.file e)
  other (hone : o.code ≠ .ok 1) :
    o.code = .error .noDirectory ∧ (∃ corpus, result = .ok corpus) ∨
      ∃ fault, o.code = .error (.failure (.duration fault)) ∧ result = .error (.duration fault) ∧
        ¬ Analysis.SpansFitAt fs path

theorem endsEarly_outcomeWithoutDirectory :
    (outcomeWithoutDirectory fs time threshold path).EndsEarly
      (Analysis.ofFile .standard fs path).result fs path := by
  rw [outcomeWithoutDirectory]
  have hsettles := Analysis.settles_result .standard fs path
  cases hresult : (Analysis.ofFile .standard fs path).result with
  | ok corpus => exact ⟨⟨rfl, rfl⟩, nofun, by simp, fun _ ↦ .inl ⟨rfl, corpus, rfl⟩⟩
  | error failure =>
    rw [hresult] at hsettles
    simp only [failureOutcome]
    cases hsettles with
    | nameTooLong | notFound | unreadable | empty =>
      exact ⟨⟨rfl, rfl⟩, by simp [isUnreported], by simp [isUnreported], fun hone ↦ absurd rfl hone⟩
    | duration hfile hspans fault =>
      exact ⟨⟨rfl, rfl⟩, nofun, by simp [isUnreported],
        fun _ ↦ .inr ⟨fault, rfl, rfl, fun hfit ↦ hspans (hfit _ hfile)⟩⟩

/-! ### All runs -/

variable {words : List String} {arguments : Arguments}

/-- How the command ends on arguments that can be read, with a log level that there is and no NUL
character in the paths of the reports. -/
theorem outcome_settled (fs : FileSystem) (now : Moment) (time : String)
    (hwords : Arguments.ofWords words = .ok arguments)
    (hlevel : thresholdOf settings arguments.logLevel = .ok threshold)
    (hdirectory : ∀ directory, arguments.directoryFor? settings = some directory →
      directory.hasNul = false)
    (hnames : settings.NamesFreeOfNul) :
    let o := outcome settings fs now time words
    let path := Path.ofString arguments.file
    (∀ corpus, (Analysis.ofFile .standard fs path).result = .ok corpus →
      corpus.AnswersAll settings path.stem now) ∧
    (∀ directory, arguments.directoryFor? settings = some directory →
      o.Ends (Run.ofFile .standard settings fs path (some directory) now).result settings fs
        arguments.quiet path directory) ∧
    (arguments.directoryFor? settings = none →
      o.EndsEarly (Analysis.ofFile .standard fs path).result fs path) := by
  intro o path
  have houtcome : o = outcomeOfArguments settings fs now time arguments := by
    simp only [o, outcome, hwords]
  rw [outcomeOfArguments, hlevel] at houtcome
  refine ⟨fun corpus h ↦ Analysis.answersAll_of_result h settings path.stem now,
    fun directory hfor ↦ ?ends, fun hnone ↦ ?early⟩
  case ends =>
    have hends := ends_outcomeWithReports fs now time threshold arguments.quiet path
      (hdirectory directory hfor) hnames
    rw [Arguments.directoryFor?] at hfor
    rw [houtcome]
    cases hflag : arguments.directory with
    | none =>
      obtain rfl : settings.exportDirectory = directory := by simpa [hflag] using hfor
      exact hends
    | some value =>
      cases value with
      | text text =>
        obtain rfl : Path.ofString text = directory := by simpa [hflag] using hfor
        exact hends
      | dropped => simp [hflag] at hfor
  case early =>
    rw [Arguments.directoryFor?] at hnone
    rw [houtcome]
    cases hflag : arguments.directory with
    | none => simp [hflag] at hnone
    | some value =>
      cases value with
      | text text => simp [hflag] at hnone
      | dropped => exact endsEarly_outcomeWithoutDirectory

/-- A workbook of one formula. -/
def oneFormula : Workbook where
  sheets := [{ name := "S", cells := [⟨⟨1, 1⟩, some (.plain "B1"), .number, "1"⟩] }]

theorem faults_oneFormula : oneFormula.faults = [] := by decide +kernel

theorem isEmpty_oneFormula : (Corpus.ofRecords .standard oneFormula.records).isEmpty = false := by
  decide +kernel

/-- The command on some words, in a directory with a workbook, on the second of January. -/
def outcomeOn (w : Workbook) (words : List String) : Outcome :=
  outcome .standard (Run.withWorkbook w) ⟨⟨2024, 1, 2⟩, {}⟩ "2024-01-02 00:00:00" words

theorem outcome_settled_one_formula :
    (outcomeOn oneFormula ["b.xlsx"]).code = .ok 0 ∧
      ∃ summary, (outcomeOn oneFormula ["b.xlsx"]).output =
        announcement false summary (.ofSettings .standard (.ofString "export")) := by
  have hwords : Arguments.ofWords ["b.xlsx"] = .ok ⟨"b.xlsx", none, false, none⟩ := by rfl
  have hlevel : thresholdOf .standard none = .ok .info := by rfl
  have hnames : Settings.standard.NamesFreeOfNul := by
    unfold Settings.NamesFreeOfNul
    decide
  obtain ⟨-, hends, -⟩ := outcome_settled (Run.withWorkbook oneFormula) ⟨⟨2024, 1, 2⟩, {}⟩
    "2024-01-02 00:00:00" hwords hlevel (by rintro _ ⟨⟩; decide) hnames
  have hrun := Run.result_single oneFormula faults_oneFormula isEmpty_oneFormula
  have hend := hends _ rfl
  obtain ⟨summary, -, houtput⟩ := hend.output hrun
  exact ⟨hend.code_zero.mpr ⟨_, hrun⟩, summary, houtput⟩

/-- A span of time of a thousand million days ends the command without an exit code. -/
theorem outcome_without_code :
    (outcomeOn Analysis.longSpan ["b.xlsx"]).code =
      .error (.failure (.duration (.beyondRange 1000000000))) := by
  have hfaults : Analysis.longSpan.faults = [.duration (.beyondRange 1000000000)] := by
    decide +kernel
  have hanalysis : (Analysis.ofFile .standard (Run.withWorkbook Analysis.longSpan)
      (.ofString "b.xlsx")).result = .error (.duration (.beyondRange 1000000000)) := by
    rw [Analysis.result_ofFile (Run.openWorkbook_withWorkbook _), Analysis.ofWorkbook,
      Workbook.readRecords, hfaults]
    rfl
  have hrun := (Run.ofFile_of_failure hanalysis .standard none ⟨⟨2024, 1, 2⟩, {}⟩).2
  show (outcomeWithReports .standard (Run.withWorkbook Analysis.longSpan) ⟨⟨2024, 1, 2⟩, {}⟩
    "2024-01-02 00:00:00" .info false (.ofString "b.xlsx") none).code = _
  rw [outcomeWithReports]
  simp only [hrun]
  rfl

/-- So does a directory flag whose value is a double hyphen. This rests on the rule by which such a
value is dropped (`FlagValue.ofText`), which not every release of the argument parser has. -/
theorem outcome_of_dropped_directory :
    (outcomeOn oneFormula ["--output-dir=--", "b.xlsx"]).code = .error .noDirectory := by
  have hanalysis : (Analysis.ofFile .standard (Run.withWorkbook oneFormula)
      (.ofString "b.xlsx")).result = .ok (Corpus.ofRecords .standard oneFormula.records) := by
    rw [Analysis.result_ofFile (Run.openWorkbook_withWorkbook _), Analysis.result_ofWorkbook_eq_ok]
    exact ⟨faults_oneFormula, rfl, isEmpty_oneFormula⟩
  show (outcomeWithoutDirectory (Run.withWorkbook oneFormula) "2024-01-02 00:00:00" .info
    (.ofString "b.xlsx")).code = _
  rw [outcomeWithoutDirectory]
  simp only [hanalysis]

end CommandLine

end FormulaAudit
