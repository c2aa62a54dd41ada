import FormulaAudit.Proofs.Report.Files
import FormulaAudit.Proofs.Report.MarkdownTables

/-!
Which report stands at which path. Reports are collected by file name and written one after another,
so what stands at a path in the end is the last text whose own path leads to the same place
(`lastAt_eq_textGoingTo`). Each path then holds its own report exactly if the three paths lead to
three different places (`heldReports_iff`); under one name for two reports only one of them is there
(`document_lost_under_one_name`).
-/

set_option autoImplicit false

namespace FormulaAudit

namespace Written

variable {fs : FileSystem} {directory : Path}

/-- The last of some named texts whose path in the directory leads to the place. -/
def textGoingTo (fs : FileSystem) (directory : Path) (texts : List (String × String))
    (place : Place) : Option String :=
  (texts.reverse.find? fun named ↦
    decide (fs.locate (directory.join (.ofString named.1)) = .ok place)).map (·.2)

theorem textGoingTo_cons (named : String × String) (texts : List (String × String))
    (place : Place) : textGoingTo fs directory (named :: texts) place =
      (textGoingTo fs directory texts place).or
        (if fs.locate (directory.join (.ofString named.1)) = .ok place then some named.2
          else none) := by
  rw [textGoingTo, List.reverse_cons, List.find?_append, Option.map_or, ← textGoingTo,
    List.find?_singleton]
  by_cases hplace : fs.locate (directory.join (.ofString named.1)) = .ok place <;> simp [hplace]

theorem mem_of_textGoingTo {texts : List (String × String)} {place : Place} {text : String}
    (h : textGoingTo fs directory texts place = some text) : ∃ name, (name, text) ∈ texts ∧
      fs.locate (directory.join (.ofString name)) = .ok place := by
  obtain ⟨⟨name, last⟩, hfind, rfl⟩ := Option.map_eq_some_iff.mp h
  have hplace := List.find?_some hfind
  exact ⟨name, List.mem_reverse.mp (List.mem_of_find?_eq_some hfind), of_decide_eq_true hplace⟩

theorem exists_textGoingTo {texts : List (String × String)} {place : Place} {name text : String}
    (hmem : (name, text) ∈ texts)
    (hplace : fs.locate (directory.join (.ofString name)) = .ok place) :
    ∃ last, textGoingTo fs directory texts place = some last := by
  rw [← Option.isSome_iff_exists, textGoingTo, Option.isSome_map, List.find?_isSome]
  exact ⟨_, List.mem_reverse.mpr hmem, decide_eq_true hplace⟩

theorem lastAt_eq_textGoingTo {done : List (String × String)} {stored : List (Place × String)}
    (h : List.Forall₂ (GoesTo fs directory) done stored) (place : Place) :
    lastAt stored place = textGoingTo fs directory done place := by
  induction h with
  | nil => rfl
  | @cons named placed _ _ hfirst _ ih =>
    obtain ⟨⟨hlocate, -⟩, htext⟩ := hfirst
    rw [textGoingTo_cons, ← ih, hlocate, lastAt_cons, htext]
    simp only [Except.ok.injEq, eq_comm]

end Written

namespace Corpus

variable {c : Corpus} {fs : FileSystem} {settings : Settings} {directory : Path} {name : String}
  {generated : Moment} {paths : ReportPaths}

/-! ### The texts by name -/

/-- The reports and the names that they are to have. -/
def namedReports (c : Corpus) (settings : Settings) (name : String) (generated : Moment) :
    List (String × String) :=
  [(settings.documentName, c.documentReport name generated),
    (settings.tableName, c.tableReport),
    (settings.narrativeName, c.narrativeReport settings name generated)]

theorem mem_putText {fileName text : String} {texts : List (String × String)}
    {entry : String × String} (h : entry ∈ putText fileName text texts) :
    entry = (fileName, text) ∨ entry ∈ texts := by
  induction texts with
  | nil => exact .inl (List.mem_singleton.mp h)
  | cons first texts ih =>
    obtain ⟨other, old⟩ := first
    rw [putText] at h
    by_cases heq : other = fileName
    · rw [if_pos heq] at h
      rcases List.mem_cons.mp h with rfl | hmem
      · exact .inl (congrArg (·, text) heq)
      · exact .inr (List.mem_cons_of_mem _ hmem)
    · rw [if_neg heq] at h
      rcases List.mem_cons.mp h with rfl | hmem
      · exact .inr List.mem_cons_self
      · exact (ih hmem).imp_right (List.mem_cons_of_mem _)

theorem mem_map_fst_putText {fileName text other : String} {texts : List (String × String)} :
    other ∈ (putText fileName text texts).map Prod.fst ↔
      other = fileName ∨ other ∈ texts.map Prod.fst := by
  induction texts with
  | nil => simp [putText]
  | cons first texts ih =>
    rw [putText]
    by_cases heq : first.1 = fileName
    · simp [heq]
    · simp only [if_neg heq, List.map_cons, List.mem_cons, ih, or_left_comm]

/-- Only reports are written, each under its name. -/
theorem mem_namedReports {entry : String × String}
    (h : entry ∈ c.reportTexts settings name generated) :
    entry ∈ c.namedReports settings name generated := by
  simp only [reportTexts, List.foldl_cons, List.foldl_nil] at h
  rcases mem_putText h with rfl | h
  · exact .tail _ (.tail _ (.head _))
  · rcases mem_putText h with rfl | h
    · exact .tail _ (.head _)
    · rcases mem_putText h with rfl | h
      · exact .head _
      · cases h

/-- Each name of a report is written to. -/
theorem exists_mem_reportTexts (c : Corpus) (name : String) (generated : Moment)
    {fileName : String} (h : fileName ∈ settings.reportNames) :
    ∃ text, (fileName, text) ∈ c.reportTexts settings name generated := by
  have hmem : fileName ∈ (c.reportTexts settings name generated).map Prod.fst := by
    simp only [reportTexts, List.foldl_cons, List.foldl_nil, mem_map_fst_putText, List.map_nil,
      List.not_mem_nil, or_false]
    simpa [Settings.reportNames, or_comm, or_left_comm, or_assoc] using h
  obtain ⟨⟨_, text⟩, htext, rfl⟩ := List.mem_map.mp hmem
  exact ⟨text, htext⟩

/-! ### Different reports are different texts -/

theorem head?_documentReport (c : Corpus) (name : String) (generated : Moment) :
    (c.documentReport name generated).toList.head? = some '{' := by
  rw [documentReport, Json.toText, String.toList_ofList, document, Json.print]
  rfl

theorem head?_tableReport (c : Corpus) : c.tableReport.toList.head? = some 'S' := by
  have hheadings : (Csv.printRow tableHeadings).head? = some 'S' := by decide
  rw [tableReport, Csv.toText, String.toList_ofList, table, List.flatMap_cons, List.head?_append,
    hheadings, Option.some_or]

theorem head?_narrativeReport :
    (c.narrativeReport settings name generated).toList.head? = some '#' := by
  have htitle : "# Excel Formula Analysis Report".toList.head? = some '#' := by decide
  simp only [toList_narrativeReport, Report.narrativeLines, Report.headingLines, List.cons_append,
    List.flatMap_cons, List.head?_append, htitle, Option.some_or]

theorem ne_of_head? {one other : String} {c d : Char} (hone : one.toList.head? = some c)
    (hother : other.toList.head? = some d) (hne : c ≠ d) : one ≠ other := by
  rintro rfl
  exact hne (Option.some.inj (hone.symm.trans hother))

theorem documentReport_ne_tableReport : c.documentReport name generated ≠ c.tableReport :=
  ne_of_head? (c.head?_documentReport name generated) c.head?_tableReport (by decide)

theorem documentReport_ne_narrativeReport :
    c.documentReport name generated ≠ c.narrativeReport settings name generated :=
  ne_of_head? (c.head?_documentReport name generated) head?_narrativeReport (by decide)

theorem tableReport_ne_narrativeReport :
    c.tableReport ≠ c.narrativeReport settings name generated :=
  ne_of_head? c.head?_tableReport head?_narrativeReport (by decide)

/-! ### What the writing leaves behind -/

/-- The three reports are where the paths lead to. -/
def HeldReports (c : Corpus) (settings : Settings) (name : String) (generated : Moment)
    (after : FileSystem) (paths : ReportPaths) : Prop :=
  after.textAt? paths.document = some (c.documentReport name generated) ∧
    after.textAt? paths.table = some c.tableReport ∧
    after.textAt? paths.narrative = some (c.narrativeReport settings name generated)

/-- A writing that succeeds has stored all texts. -/
theorem exists_stores_of_success
    (hsuccess : (c.writeReports fs settings directory name generated).result = .ok paths) :
    paths = .ofSettings settings directory ∧
      ∃ (written : Written) (stored : List (Place × String)),
        (c.writeReports fs settings directory name generated).files = written.files ∧
        written.Stores (Written.ofDirectory fs directory).files directory
          (c.reportTexts settings name generated) stored := by
  rcases writeReports_cases _ _ _ _ _ (isEmpty_of_success hsuccess) with
    ⟨e, -, -, hfailure⟩ | ⟨-, hfiles, ⟨e, -, hfailure⟩ | ⟨hwritten, hpaths⟩⟩
  · cases hfailure.symm.trans hsuccess
  · cases hfailure.symm.trans hsuccess
  obtain ⟨done, rest, stored, htexts, hstores, hall, -⟩ := Written.exists_stores
    (Written.ofDirectory fs directory).files directory (c.reportTexts settings name generated)
  obtain rfl := hall hwritten
  rw [List.append_nil] at htexts
  exact ⟨Except.ok.inj (hsuccess.symm.trans hpaths), _, stored, hfiles, htexts ▸ hstores⟩

/-- The path of each report leads to a text, the last one that was written there. -/
theorem exists_text_of_report
    (hsuccess : (c.writeReports fs settings directory name generated).result = .ok paths)
    (fileName : String) (hname : fileName ∈ settings.reportNames) :
    let after := (c.writeReports fs settings directory name generated).files
    ∃ place text, after.locate (directory.join (.ofString fileName)) = .ok place ∧
      after.textAt? (directory.join (.ofString fileName)) = some text ∧
      Written.textGoingTo after directory (c.reportTexts settings name generated) place =
        some text := by
  intro after
  obtain ⟨rfl, written, stored, hafter, hstores⟩ := exists_stores_of_success hsuccess
  rw [show after = written.files from hafter]
  have hgoes : List.Forall₂ (Written.GoesTo written.files directory)
      (c.reportTexts settings name generated) stored :=
    hstores.goesTo.imp fun _ _ h ↦ ⟨hstores.directories.takes.mpr h.1, h.2⟩
  obtain ⟨written, hwritten⟩ := c.exists_mem_reportTexts name generated hname
  obtain ⟨place, -, hlocate, -⟩ := Written.exists_place_of_mem hgoes hwritten
  obtain ⟨text, htext⟩ := Written.exists_textGoingTo hwritten hlocate
  refine ⟨place, text, hlocate, ?_, htext⟩
  rw [FileSystem.textAt?, FileSystem.find?, hlocate]
  simp only [hstores.node?, Written.lastAt_eq_textGoingTo hgoes, htext, Option.map_some,
    Option.some_or]

/-- What was written last under a path to a place is a report if no other one goes there. -/
theorem text_eq_of_others {place : Place} {text own : String}
    (hlast : Written.textGoingTo fs directory (c.reportTexts settings name generated) place =
      some text)
    (hothers : ∀ named ∈ c.namedReports settings name generated, named.2 ≠ own →
      fs.locate (directory.join (.ofString named.1)) ≠ .ok place) : text = own := by
  by_contra hne
  obtain ⟨fileName, hmem, hplace⟩ := Written.mem_of_textGoingTo hlast
  exact hothers (fileName, text) (mem_namedReports hmem) hne hplace

/-- After a writing that succeeds, each report path leads to the text that was written last under a
path to the same place. So each has its own report exactly if they lead to different places. -/
theorem heldReports_iff
    (hsuccess : (c.writeReports fs settings directory name generated).result = .ok paths) :
    let after := (c.writeReports fs settings directory name generated).files
    let texts := c.reportTexts settings name generated
    ∃ document table narrative, after.locate paths.document = .ok document ∧
      after.locate paths.table = .ok table ∧ after.locate paths.narrative = .ok narrative ∧
      (∃ text, after.textAt? paths.document = some text ∧
        Written.textGoingTo after directory texts document = some text) ∧
      (∃ text, after.textAt? paths.table = some text ∧
        Written.textGoingTo after directory texts table = some text) ∧
      (∃ text, after.textAt? paths.narrative = some text ∧
        Written.textGoingTo after directory texts narrative = some text) ∧
      (c.HeldReports settings name generated after paths ↔
        document ≠ table ∧ document ≠ narrative ∧ table ≠ narrative) := by
  intro after texts
  obtain ⟨rfl, -⟩ := exists_stores_of_success hsuccess
  obtain ⟨document, documentText, hdocument, hdocumentText, hdocumentLast⟩ :=
    exists_text_of_report hsuccess settings.documentName (.head _)
  obtain ⟨table, tableText, htable, htableText, htableLast⟩ :=
    exists_text_of_report hsuccess settings.tableName (.tail _ (.head _))
  obtain ⟨narrative, narrativeText, hnarrative, hnarrativeText, hnarrativeLast⟩ :=
    exists_text_of_report hsuccess settings.narrativeName (.tail _ (.tail _ (.head _)))
  refine ⟨document, table, narrative, hdocument, htable, hnarrative,
    ⟨_, hdocumentText, hdocumentLast⟩, ⟨_, htableText, htableLast⟩,
    ⟨_, hnarrativeText, hnarrativeLast⟩, ?_⟩
  constructor
  · rintro ⟨hdocumentHeld, htableHeld, hnarrativeHeld⟩
    obtain rfl := Option.some.inj (hdocumentText.symm.trans hdocumentHeld)
    obtain rfl := Option.some.inj (htableText.symm.trans htableHeld)
    obtain rfl := Option.some.inj (hnarrativeText.symm.trans hnarrativeHeld)
    -- Two reports at one place would be one text, but no two of them begin alike.
    refine ⟨?_, ?_, ?_⟩
    · rintro rfl
      exact documentReport_ne_tableReport (Option.some.inj (hdocumentLast.symm.trans htableLast))
    · rintro rfl
      exact documentReport_ne_narrativeReport
        (Option.some.inj (hdocumentLast.symm.trans hnarrativeLast))
    · rintro rfl
      exact tableReport_ne_narrativeReport (Option.some.inj (htableLast.symm.trans hnarrativeLast))
  · rintro ⟨htables, hnarratives, hothers⟩
    refine ⟨hdocumentText.trans ?_, htableText.trans ?_, hnarrativeText.trans ?_⟩
    · refine congrArg some (text_eq_of_others hdocumentLast ?_)
      simp [namedReports, htable, hnarrative, htables.symm, hnarratives.symm]
    · refine congrArg some (text_eq_of_others htableLast ?_)
      simp [namedReports, hdocument, hnarrative, htables, hothers.symm]
    · refine congrArg some (text_eq_of_others hnarrativeLast ?_)
      simp [namedReports, hdocument, htable, hnarratives, hothers]

/-- The file system with the directory for the reports already there. -/
def withDirectory : FileSystem := (FileSystem.emptyAt []).put ["out"] .directory

/-- Settings under which the document and the table have one name. -/
def oneName : Settings :=
  { Settings.standard with documentName := "report.txt", tableName := "report.txt" }

/-- Under the standard names each path has its own report. -/
theorem heldReports_standard :
    (writeSingle withDirectory).result = .ok (.ofSettings .standard (.ofString "out")) ∧
      single.HeldReports .standard "model" ⟨⟨2024, 1, 2⟩, {}⟩ (writeSingle withDirectory).files
        (.ofSettings .standard (.ofString "out")) := by
  have hsuccess : (writeSingle withDirectory).result =
      .ok (.ofSettings .standard (.ofString "out")) := rfl
  obtain ⟨document, table, narrative, hdocument, htable, hnarrative, -, -, -, hheld⟩ :=
    heldReports_iff hsuccess
  obtain rfl : ["out", "formula_analysis.json"] = document := Except.ok.inj hdocument
  obtain rfl : ["out", "formulas.csv"] = table := Except.ok.inj htable
  obtain rfl : ["out", "analysis_report.md"] = narrative := Except.ok.inj hnarrative
  exact ⟨hsuccess, hheld.mpr (by decide)⟩

/-- Under one name the table takes the place of the document. -/
theorem document_lost_under_one_name :
    let reports := single.writeReports withDirectory oneName (.ofString "out") "model"
      ⟨⟨2024, 1, 2⟩, {}⟩
    reports.result = .ok (.ofSettings oneName (.ofString "out")) ∧
      (ReportPaths.ofSettings oneName (.ofString "out")).document = .ofString "out/report.txt" ∧
      reports.files.textAt? (.ofString "out/report.txt") =
        some "Sheet,Cell,Formula,Category,Length,FunctionCount\nS,A1,B1,SIMPLE,2,0\n" ∧
      ¬ single.HeldReports oneName "model" ⟨⟨2024, 1, 2⟩, {}⟩ reports.files
        (.ofSettings oneName (.ofString "out")) := by
  intro reports
  have hpath : (ReportPaths.ofSettings oneName (.ofString "out")).document =
      .ofString "out/report.txt" := by decide
  have htable : reports.files.textAt? (.ofString "out/report.txt") = some single.tableReport := rfl
  refine ⟨rfl, hpath, htable.trans (congrArg some (by decide +kernel)), fun hheld ↦ ?_⟩
  have hdocument := hheld.1
  rw [hpath, htable] at hdocument
  exact documentReport_ne_tableReport (Option.some.inj hdocument).symm

end Corpus

end FormulaAudit
