import FormulaAudit.Proofs.FileSystem.Writing
import FormulaAudit.Report.Files
import FormulaAudit.Tally
import Mathlib.Data.List.Forall2
import Mathlib.Data.List.Nodup

/-!
What writing the reports leaves behind. The reports are written one after another, so those before
the first one that cannot be written are there in the end and the others are not (`Stores`). The
error is that of the directory or of this report (`StopsBy`). A failure therefore changes no file
exactly if each report written before it was there already (`writeReports_failure`), which is so if
the directory or the first report fails, but not in general (`partial_reports_left`). Reports that
are all written, each under a plain name of its own, are found again with the texts that they were
given (`textAt?_report`).
-/

set_option autoImplicit false

namespace FormulaAudit

/-- The text that was stored last at a place. -/
def lastAt (stored : List (Place × String)) (place : Place) : Option String :=
  stored.reverse.lookup place

theorem lastAt_cons (place other : Place) (text : String) (stored : List (Place × String)) :
    lastAt ((place, text) :: stored) other =
      (lastAt stored other).or (if other = place then some text else none) := by
  rw [lastAt, List.reverse_cons, List.lookup_append, lastAt, List.lookup_cons]
  by_cases heq : other = place
  · simp [heq]
  · rw [if_neg heq, beq_false_of_ne heq]
    rfl

/-- What is stored at a place that takes one text only is that text. -/
theorem lastAt_of_mem {stored : List (Place × String)} (hplaces : (stored.map Prod.fst).Nodup)
    {place : Place} {text : String} (hmem : (place, text) ∈ stored) :
    lastAt stored place = some text := by
  induction stored with
  | nil => cases hmem
  | cons first stored ih =>
    obtain ⟨hfresh, hrest⟩ := List.nodup_cons.mp hplaces
    rw [lastAt_cons]
    rcases List.mem_cons.mp hmem with rfl | hmem
    · have hnone : lastAt stored place = none :=
        List.lookup_eq_none_iff.mpr fun entry hentry ↦ bne_iff_ne.mpr fun heq ↦
          hfresh (List.mem_map.mpr ⟨entry, List.mem_reverse.mp hentry, heq.symm⟩)
      rw [hnone, if_pos rfl, Option.none_or]
    · rw [ih hrest hmem, Option.some_or]

namespace FileSystem

/-- The text in the file that a path leads to. -/
def textAt? (fs : FileSystem) (path : Path) : Option String :=
  match fs.find? path with
  | some (.file (.text text)) => some text
  | _ => none

end FileSystem

namespace Written

variable {fs : FileSystem} {directory : Path} {texts : List (String × String)}

/-- The named text goes to the place. -/
def GoesTo (fs : FileSystem) (directory : Path) (named : String × String)
    (placed : Place × String) : Prop :=
  fs.Takes (directory.join (.ofString named.1)) placed.1 ∧ placed.2 = named.2

/-- Some named texts are stored, each at its place, and nothing else has changed. -/
structure Stores (w : Written) (fs : FileSystem) (directory : Path) (done : List (String × String))
    (stored : List (Place × String)) : Prop where
  goesTo : List.Forall₂ (GoesTo fs directory) done stored
  directories : fs.SameDirectories w.files
  node? (place : Place) : w.files.node? place =
    ((lastAt stored place).map fun text ↦ .file (.text text)).or (fs.node? place)

theorem Stores.nothing (fs : FileSystem) (directory : Path) (w : Written) (hw : w.files = fs) :
    w.Stores fs directory [] [] where
  goesTo := .nil
  directories := hw ▸ ⟨rfl, fun _ ↦ Iff.rfl⟩
  node? place := by rw [hw]; rfl

/-- One text, and then those behind it. -/
theorem Stores.cons {w : Written} {name text : String} {place : Place} {log : List LogEntry}
    {done : List (String × String)} {stored : List (Place × String)}
    (hplace : fs.Takes (directory.join (.ofString name)) place)
    (hw : w.Stores (fs.put place (.file (.text text))) directory done stored) :
    ({ w with log } : Written).Stores fs directory ((name, text) :: done)
      ((place, text) :: stored) where
  goesTo := by
    have hsame := FileSystem.sameDirectories_put_file hplace.2 (.text text)
    exact .cons ⟨hplace, rfl⟩ (hw.goesTo.imp fun _ _ h ↦ ⟨hsame.takes.mp h.1, h.2⟩)
  directories := (FileSystem.sameDirectories_put_file hplace.2 _).trans hw.directories
  node? other := by
    rw [hw.node?, lastAt_cons, FileSystem.node?_put (FileSystem.ne_root hplace.2)]
    cases lastAt stored other with
    | some later => rfl
    | none => by_cases heq : other = place <;> simp [heq]

/-- Some texts are left, and the error is that of writing the first of them. -/
def BlockedBy (fs : FileSystem) (directory : Path) (rest : List (String × String))
    (e : FileError) : Prop :=
  ∃ name text more, rest = (name, text) :: more ∧
    fs.write (directory.join (.ofString name)) text = .error e

theorem BlockedBy.ne_nil {rest : List (String × String)} {e : FileError}
    (h : BlockedBy fs directory rest e) : rest ≠ [] := by
  obtain ⟨name, text, more, rfl, -⟩ := h
  exact List.cons_ne_nil _ _

/-- Texts are stored from the first one on, up to the one that gives the error, if there is one. -/
theorem exists_stores (fs : FileSystem) (directory : Path) (texts : List (String × String)) :
    ∃ done rest stored, texts = done ++ rest ∧
      (ofTexts fs directory texts).Stores fs directory done stored ∧
        ((ofTexts fs directory texts).error = none → rest = []) ∧
        ∀ e, (ofTexts fs directory texts).error = some e →
          BlockedBy (ofTexts fs directory texts).files directory rest e := by
  induction texts generalizing fs with
  | nil => exact ⟨[], [], [], rfl, .nothing fs directory _ rfl, fun _ ↦ rfl, fun _ h ↦ by cases h⟩
  | cons named texts ih =>
    obtain ⟨name, text⟩ := named
    rw [ofTexts]
    cases hwrite : fs.write (directory.join (.ofString name)) text with
    | error e =>
      refine ⟨[], _, [], rfl, .nothing fs directory _ rfl, fun hnone ↦ ?none, fun _ hfault ↦ ?_⟩
      case none => cases hnone
      obtain rfl := Option.some.inj hfault
      exact ⟨name, text, texts, rfl, hwrite⟩
    | ok after =>
      obtain ⟨place, hplace, rfl⟩ := FileSystem.write_eq_ok.mp hwrite
      obtain ⟨done, rest, stored, rfl, hstores, hall, hblocked⟩ :=
        ih (fs.put place (.file (.text text)))
      exact ⟨(name, text) :: done, rest, (place, text) :: stored, rfl, hstores.cons hplace, hall,
        hblocked⟩

section GoesTo

variable {done : List (String × String)} {stored : List (Place × String)}

theorem exists_place_of_mem (h : List.Forall₂ (GoesTo fs directory) done stored) {name text : String}
    (hmem : (name, text) ∈ done) :
    ∃ place, (place, text) ∈ stored ∧ fs.Takes (directory.join (.ofString name)) place := by
  induction h with
  | nil => cases hmem
  | @cons _ placed _ _ hfirst _ ih =>
    rcases List.mem_cons.mp hmem with rfl | hmem
    · obtain ⟨htakes, rfl⟩ := hfirst
      exact ⟨placed.1, List.mem_cons_self, htakes⟩
    · obtain ⟨place, hplace, htakes⟩ := ih hmem
      exact ⟨place, List.mem_cons_of_mem _ hplace, htakes⟩

/-- Plain names are the last parts of the places. -/
theorem getLast?_places (h : List.Forall₂ (GoesTo fs directory) done stored)
    (hplain : ∀ name ∈ done.map Prod.fst, Path.IsPlain name) :
    (stored.map Prod.fst).map List.getLast? = (done.map Prod.fst).map some := by
  induction h with
  | nil => rfl
  | cons hfirst _ ih =>
    obtain ⟨hname, hnames⟩ := List.forall_mem_cons.mp hplain
    rw [List.map_cons, List.map_cons, hfirst.1.getLast?_eq hname, ih hnames]
    rfl

/-- Texts under different plain names are all there in the end. -/
theorem Stores.textAt? {w : Written} (hw : w.Stores fs directory done stored)
    (hplain : ∀ name ∈ done.map Prod.fst, Path.IsPlain name)
    (hdistinct : (done.map Prod.fst).Nodup) {name text : String} (hmem : (name, text) ∈ done) :
    w.files.textAt? (directory.join (.ofString name)) = some text := by
  have hplaces : (stored.map Prod.fst).Nodup := by
    refine List.Nodup.of_map List.getLast? ?_
    rw [getLast?_places hw.goesTo hplain]
    exact hdistinct.map fun _ _ ↦ Option.some.inj
  obtain ⟨place, hstored, htakes⟩ := exists_place_of_mem hw.goesTo hmem
  rw [FileSystem.textAt?, FileSystem.find?, (hw.directories.takes.mpr htakes).1]
  simp only [hw.node?, lastAt_of_mem hplaces hstored, Option.map_some, Option.some_or]

end GoesTo

theorem sameFiles_ofDirectory (fs : FileSystem) (directory : Path) :
    fs.SameFiles (ofDirectory fs directory).files := by
  have hmade := FileSystem.sameFiles_makeDirectories fs directory
  unfold ofDirectory
  split
  case h_1 | h_2 => exact .refl fs
  case h_3 => split <;> simp_all

end Written

/-- The names of the report files in the order of writing. -/
def Settings.reportNames (settings : Settings) : List String :=
  [settings.documentName, settings.tableName, settings.narrativeName]

/-- The reports go to three different files in the directory itself. -/
def Settings.HasPlainNames (settings : Settings) : Prop :=
  (∀ name ∈ settings.reportNames, Path.IsPlain name) ∧ settings.reportNames.Nodup

namespace Corpus

variable {c : Corpus} {fs : FileSystem} {settings : Settings} {directory : Path} {name : String}
  {generated : Moment}

theorem putText_ne_nil (name text : String) (texts : List (String × String)) :
    putText name text texts ≠ [] := by
  cases texts with
  | nil => exact List.cons_ne_nil _ _
  | cons first texts =>
    rw [putText]
    split <;> exact List.cons_ne_nil _ _

theorem reportTexts_ne_nil (c : Corpus) (settings : Settings) (name : String)
    (generated : Moment) : c.reportTexts settings name generated ≠ [] :=
  putText_ne_nil _ _ _

/-- The reports on a corpus that is not empty fail with the directory or with a text, or succeed. -/
theorem writeReports_cases (fs : FileSystem) (settings : Settings) (directory : Path)
    (name : String) (generated : Moment) (hfull : c.isEmpty = false) :
    let reports := c.writeReports fs settings directory name generated
    let made := Written.ofDirectory fs directory
    let written := Written.ofTexts made.files directory (c.reportTexts settings name generated)
    (∃ e, made.error = some e ∧ reports.files = made.files ∧ reports.result = .error (.file e)) ∨
      made.error = none ∧ reports.files = written.files ∧
        ((∃ e, written.error = some e ∧ reports.result = .error (.file e)) ∨
          written.error = none ∧ reports.result = .ok (.ofSettings settings directory)) := by
  rw [writeReports, if_neg (by simp [hfull])]
  cases hmade : (Written.ofDirectory fs directory).error with
  | some e =>
    simp only [hmade]
    exact .inl ⟨e, rfl, trivial, rfl⟩
  | none =>
    simp only [hmade]
    cases hwritten : (Written.ofTexts (Written.ofDirectory fs directory).files directory
        (c.reportTexts settings name generated)).error with
    | some e =>
      simp only
      exact .inr ⟨trivial, trivial, .inl ⟨e, rfl, rfl⟩⟩
    | none =>
      simp only
      exact .inr ⟨trivial, trivial, .inr ⟨trivial, trivial⟩⟩

/-- Nothing is written if the directory cannot be made, and otherwise the reports are written up to
the one that gives the error. -/
def StopsBy (fs : FileSystem) (directory : Path) (after : FileSystem)
    (done rest : List (String × String)) (e : FileError) : Prop :=
  (Written.ofDirectory fs directory).error = some e ∧ done = [] ∨
    (Written.ofDirectory fs directory).error = none ∧ Written.BlockedBy after directory rest e

/-- Reports are written from the first one on. The writing succeeds if none is left. -/
theorem exists_stores (hfull : c.isEmpty = false) :
    let reports := c.writeReports fs settings directory name generated
    ∃ (made : FileSystem) (written : Written), ∃ done rest stored, fs.SameFiles made ∧
      reports.files = written.files ∧
      c.reportTexts settings name generated = done ++ rest ∧
      written.Stores made directory done stored ∧
      ((rest ≠ [] ∧ ∃ e, reports.result = .error (.file e) ∧
          StopsBy fs directory written.files done rest e) ∨
        rest = [] ∧ reports.result = .ok (.ofSettings settings directory)) := by
  intro reports
  have hsame := Written.sameFiles_ofDirectory fs directory
  obtain ⟨done, rest, stored, htexts, hstores, hall, hblocked⟩ := Written.exists_stores
    (Written.ofDirectory fs directory).files directory (c.reportTexts settings name generated)
  rcases writeReports_cases fs settings directory name generated hfull with
    ⟨e, hmade, hfiles, hresult⟩ | ⟨hmade, hfiles, ⟨e, hwritten, hresult⟩ | ⟨hwritten, hresult⟩⟩
  · exact ⟨_, _, [], _, [], hsame, hfiles, rfl, .nothing _ directory _ rfl,
      .inl ⟨c.reportTexts_ne_nil _ _ _, e, hresult, .inl ⟨hmade, rfl⟩⟩⟩
  · have hblock := hblocked e hwritten
    exact ⟨_, _, done, rest, stored, hsame, hfiles, htexts, hstores,
      .inl ⟨hblock.ne_nil, e, hresult, .inr ⟨hmade, hblock⟩⟩⟩
  · exact ⟨_, _, done, rest, stored, hsame, hfiles, htexts, hstores,
      .inr ⟨hall hwritten, hresult⟩⟩

/-- What a failed writing of reports leaves behind. The failure is that of the directory, and then
nothing is written, or that of the first report that is not written. -/
theorem writeReports_failure (hfull : c.isEmpty = false) {failure : Failure}
    (hfailure : (c.writeReports fs settings directory name generated).result = .error failure) :
    let after := (c.writeReports fs settings directory name generated).files
    ∃ done rest stored, c.reportTexts settings name generated = done ++ rest ∧ rest ≠ [] ∧
      (∃ e, failure = .file e ∧ StopsBy fs directory after done rest e) ∧
      List.Forall₂ (Written.GoesTo after directory) done stored ∧
      (∀ place content, after.node? place = some (.file content) ↔
        ((lastAt stored place).map fun text ↦ .file (.text text)).or (fs.node? place) =
          some (.file content)) ∧
      (fs.SameFiles after ↔ ∀ place text, lastAt stored place = some text →
        fs.node? place = some (.file (.text text))) := by
  intro after
  obtain ⟨made, written, done, rest, stored, hsame, hafter, htexts, hstores,
    ⟨hrest, e, herror, hstops⟩ | ⟨-, hsuccess⟩⟩ := exists_stores hfull
  case inr => cases hsuccess.symm.trans hfailure
  have hcause : failure = .file e := Except.error.inj (hfailure.symm.trans herror)
  rw [show after = written.files from hafter]
  have hgoes : List.Forall₂ (Written.GoesTo written.files directory) done stored :=
    hstores.goesTo.imp fun _ _ h ↦ ⟨hstores.directories.takes.mpr h.1, h.2⟩
  have hnode : ∀ place content, written.files.node? place = some (.file content) ↔
      ((lastAt stored place).map fun text ↦ .file (.text text)).or (fs.node? place) =
        some (.file content) := by
    intro place content
    rw [hstores.node?]
    cases lastAt stored place with
    | some text => rfl
    | none => exact hsame place content
  refine ⟨done, rest, stored, htexts, hrest, ⟨e, hcause, hstops⟩, hgoes, hnode,
    fun hunchanged place text hlast ↦ ?_, fun hstored place content ↦ ?_⟩
  · exact (hunchanged place _).mp ((hnode place _).mpr (by rw [hlast]; rfl))
  · rw [hnode]
    cases hlast : lastAt stored place with
    | some text => rw [hstored place text hlast]; rfl
    | none => rfl

theorem reportTexts_eq (hnames : settings.reportNames.Nodup) (c : Corpus) (name : String)
    (generated : Moment) : c.reportTexts settings name generated =
      [(settings.documentName, c.documentReport name generated),
        (settings.tableName, c.tableReport),
        (settings.narrativeName, c.narrativeReport settings name generated)] := by
  simp only [Settings.reportNames, List.nodup_cons, List.mem_cons, List.not_mem_nil, or_false,
    not_or] at hnames
  obtain ⟨⟨htable, hnarrative⟩, hlast, -⟩ := hnames
  simp [reportTexts, putText, htable, hnarrative, hlast]

theorem isEmpty_of_success {paths : ReportPaths}
    (hsuccess : (c.writeReports fs settings directory name generated).result = .ok paths) :
    c.isEmpty = false := by
  by_contra hempty
  rw [writeReports, if_pos (by simpa using hempty)] at hsuccess
  cases hsuccess

/-- Reports that are written under different plain names are there in the end. -/
theorem textAt?_report (hnames : settings.HasPlainNames) {paths : ReportPaths}
    (hsuccess : (c.writeReports fs settings directory name generated).result = .ok paths) :
    let after := (c.writeReports fs settings directory name generated).files
    after.textAt? paths.document = some (c.documentReport name generated) ∧
      after.textAt? paths.table = some c.tableReport := by
  intro after
  obtain ⟨made, written, done, rest, stored, -, hafter, htexts, hstores,
    ⟨-, e, hfailure, -⟩ | ⟨rfl, hpaths⟩⟩ := exists_stores (isEmpty_of_success hsuccess)
  case inl => cases hfailure.symm.trans hsuccess
  obtain rfl := Except.ok.inj (hpaths.symm.trans hsuccess)
  obtain ⟨hplain, hdistinct⟩ := hnames
  rw [List.append_nil, reportTexts_eq hdistinct] at htexts
  subst htexts
  rw [show after = written.files from hafter]
  exact ⟨hstores.textAt? hplain hdistinct (by simp), hstores.textAt? hplain hdistinct (by simp)⟩

/-- A file system with an empty file in the place of a directory for reports. -/
def withFile : FileSystem := (FileSystem.emptyAt []).put ["out"] (.file (.text ""))

/-- A file system with a directory in the place of a table. -/
def withBlockedTable : FileSystem :=
  (FileSystem.emptyAt []).install [] ["out", "formulas.csv"] .directory

def single : Corpus :=
  Tally.aggregate .standard [{ sheet := "S", cell := "A1", formula := "B1" }]

/-- The reports on one formula, written on the second of January. -/
def writeSingle (fs : FileSystem) : ReportFiles :=
  single.writeReports fs .standard (.ofString "out") "model" ⟨⟨2024, 1, 2⟩, {}⟩

/-- Nothing can be stored if the directory for the reports is a file. -/
theorem writeReports_failure_without_directory :
    (writeSingle withFile).result =
        .error (.file ⟨.notADirectory, .ofString "out/formula_analysis.json"⟩) ∧
      withFile.SameFiles (writeSingle withFile).files := by
  have hfailure : (writeSingle withFile).result =
      .error (.file ⟨.notADirectory, .ofString "out/formula_analysis.json"⟩) := rfl
  have hafter : (writeSingle withFile).files = withFile := rfl
  obtain ⟨done, rest, stored, htexts, hrest, -, hgoes, -, hiff⟩ := writeReports_failure rfl hfailure
  refine ⟨hfailure, hiff.mpr fun place text hlast ↦ ?_⟩
  cases hgoes with
  | nil => cases hlast
  | @cons named placed _ _ hfirst =>
    -- The document would be the first report to be stored, but no path leads through a file.
    have hname : named.1 = "formula_analysis.json" :=
      (Option.some.inj (congrArg (·.head?.map Prod.fst) htexts)).symm
    have hlocate := hfirst.1.1
    rw [hname, show single.writeReports withFile _ _ _ _ = writeSingle withFile from rfl,
      hafter] at hlocate
    cases hlocate

theorem node?_document_of_blocked_table (hfull : c.isEmpty = false) (name : String)
    (generated : Moment) :
    let after := c.writeReports withBlockedTable .standard (.ofString "out") name generated
    after.result = .error (.file ⟨.isADirectory, .ofString "out/formulas.csv"⟩) ∧
      after.files.node? ["out", "formula_analysis.json"] =
        some (.file (.text (c.documentReport name generated))) := by
  rw [writeReports, if_neg (by simp [hfull])]
  exact ⟨rfl, rfl⟩

/-- The table cannot be written, and the document, which was not there before, stays. -/
theorem partial_reports_left :
    (writeSingle withBlockedTable).result =
        .error (.file ⟨.isADirectory, .ofString "out/formulas.csv"⟩) ∧
      withBlockedTable.node? ["out", "formula_analysis.json"] = none ∧
      (writeSingle withBlockedTable).files.node? ["out", "formula_analysis.json"] ≠ none ∧
      ¬ withBlockedTable.SameFiles (writeSingle withBlockedTable).files := by
  have hnone : withBlockedTable.node? ["out", "formula_analysis.json"] = none := rfl
  obtain ⟨hresult, hnode⟩ :=
    node?_document_of_blocked_table (c := single) rfl "model" ⟨⟨2024, 1, 2⟩, {}⟩
  refine ⟨hresult, hnone, fun hempty ↦ ?_, fun hsame ↦ ?_⟩
  · cases hnode.symm.trans hempty
  · cases hnone.symm.trans ((hsame _ _).mp hnode)

end Corpus

end FormulaAudit
