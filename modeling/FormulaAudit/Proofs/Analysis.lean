import FormulaAudit.Proofs.Tally.Session
import FormulaAudit.Proofs.Workbook.FormulaCells
import FormulaAudit.Run

/-!
How an analysis ends. What stands at the path settles it: no file is there, or the file is no workbook
that can be read, or the workbook keeps no formula, or else the result is the corpus of all its
records (`result_settled`). A single fault spoils a workbook, wherever it is and whatever formulas
come before it, so that no corpus is ever of a part of a workbook; and a run whose analysis fails
changes nothing. More can spoil a workbook than a value that cannot be read, and an analysis may end
in yet other ways if a name or a span of time is too long (`endings_without_malformed_value`).
-/

set_option autoImplicit false

namespace FormulaAudit

/-! ### What spoils a workbook -/

namespace Workbook

variable {w : Workbook}

/-- A sheet has a name that no title may have, a cell stands in a column that there is not, or a
stored text stands for no value. -/
inductive Spoiled (w : Workbook) : Prop where
  | title {s : Sheet} (hs : s ∈ w.sheets) {c : Char} (hc : c ∈ s.name.toList)
      (hforbidden : c ∈ forbiddenInTitle)
  | column {s : Sheet} (hs : s ∈ w.sheets) {cell : Cell} (hcell : cell ∈ s.cells)
      (hcolumn : Position.lastColumn < cell.position.column)
  | value {s : Sheet} (hs : s ∈ w.sheets) {cell : Cell} (hcell : cell ∈ s.cells)
      {fault : CellValue.Fault} (hvalue : cell.value = .error fault)

/-- No stored span of time is too long to hold. -/
def SpansFit (w : Workbook) : Prop :=
  ∀ s ∈ w.sheets, ∀ cell ∈ s.cells, ∀ fault, cell.value ≠ .error (.duration fault)

/-- Some cell that the workbook keeps has a formula. -/
def HoldsFormulas (w : Workbook) : Prop :=
  ∃ s ∈ w.sheets, ∃ cell formula, s.Keeps cell ∧ cell.HoldsFormula formula

theorem isTitle_iff {name : String} :
    isTitle name = true ↔ ∀ c ∈ name.toList, c ∉ forbiddenInTitle := by
  simp [isTitle]

theorem faults_eq_nil_iff_not_spoiled : w.faults = [] ↔ ¬ w.Spoiled := by
  rw [faults_eq_nil_iff]
  constructor
  · intro h hspoiled
    cases hspoiled with
    | title hs hc hforbidden => exact isTitle_iff.mp (h _ hs).1 _ hc hforbidden
    | column hs hcell hcolumn =>
      exact Nat.not_lt.mpr (Cell.fault?_eq_none_iff.mp ((h _ hs).2 _ hcell)).1 hcolumn
    | value hs hcell hvalue =>
      obtain ⟨v, hv⟩ := (Cell.fault?_eq_none_iff.mp ((h _ hs).2 _ hcell)).2
      cases hvalue.symm.trans hv
  · intro h s hs
    refine ⟨isTitle_iff.mpr fun c hc hforbidden ↦ h (.title hs hc hforbidden), fun cell hcell ↦ ?_⟩
    refine Cell.fault?_eq_none_iff.mpr
      ⟨Nat.not_lt.mp fun hcolumn ↦ h (.column hs hcell hcolumn), ?_⟩
    cases hvalue : cell.value with
    | ok v => exact ⟨v, rfl⟩
    | error fault => exact absurd (.value hs hcell hvalue) h

theorem eq_malformed_or_of_mem_faults {fault : CellValue.Fault} (h : fault ∈ w.faults) :
    fault = .malformed ∨ ∃ s ∈ w.sheets, ∃ cell ∈ s.cells, cell.value = .error fault := by
  have hsheet : ∀ {s : Sheet} {looksAtValue : Cell → Bool}, s ∈ w.sheets →
      fault ∈ s.faults looksAtValue →
      fault = .malformed ∨ ∃ s ∈ w.sheets, ∃ cell ∈ s.cells, cell.value = .error fault := by
    intro s looksAtValue hs hfault
    obtain ⟨cell, hcell, hcellFault⟩ := List.mem_filterMap.mp hfault
    have hcell := (Sheet.sorted_perm s.cells).mem_iff.mp hcell
    exact (Cell.eq_malformed_or_of_fault? hcellFault).imp_right fun hvalue ↦
      ⟨s, hs, cell, hcell, hvalue⟩
  rcases List.mem_append.mp h with hfirst | hall
  · obtain ⟨s, hs, hfault⟩ := List.mem_flatMap.mp hfirst
    rcases List.mem_append.mp hfault with htitle | hfault
    · refine Or.inl ?_
      split at htitle
      · cases htitle
      · exact List.mem_singleton.mp htitle
    · exact hsheet hs hfault
  · obtain ⟨s, hs, hfault⟩ := List.mem_flatMap.mp hall
    exact hsheet hs hfault

theorem SpansFit.eq_malformed (hspans : w.SpansFit) {fault : CellValue.Fault}
    (h : fault ∈ w.faults) : fault = .malformed := by
  rcases eq_malformed_or_of_mem_faults h with hmalformed | ⟨s, hs, cell, hcell, hvalue⟩
  · exact hmalformed
  · cases fault with
    | malformed => rfl
    | duration f => exact absurd hvalue (hspans s hs cell hcell f)

/-- Only a date can be a span of time. -/
theorem spansFit_of_types (h : ∀ s ∈ w.sheets, ∀ cell ∈ s.cells, cell.type ≠ .date) :
    w.SpansFit := by
  intro s hs cell hcell fault
  have htype := h s hs cell hcell
  unfold Cell.value CellValue.read
  by_cases hempty : cell.stored = ""
  · rw [if_pos hempty]
    exact nofun
  · rw [if_neg hempty]
    cases hcase : cell.type with
    | date => exact absurd hcase htype
    | text => exact nofun
    | number => cases CellValue.readNumber? cell.stored <;> exact nofun
    | truth => cases Numeral.integer? cell.stored <;> exact nofun

theorem records_eq_nil_iff : w.records = [] ↔ ¬ w.HoldsFormulas := by
  rw [records_eq, List.map_eq_nil_iff, List.eq_nil_iff_forall_not_mem]
  refine ⟨fun h ⟨s, hs, cell, formula, hcell⟩ ↦ ?_, fun h e he ↦ ?_⟩
  · obtain ⟨i, hi⟩ := List.mem_iff_getElem?.mp hs
    exact h ⟨i, cell, formula⟩ ((w.listsKept_formulaCells.mem _).mpr ⟨s, hi, hcell⟩)
  · obtain ⟨s, hs, hcell⟩ := (w.listsKept_formulaCells.mem e).mp he
    exact h ⟨s, List.mem_of_getElem? hs, e.cell, e.formula, hcell⟩

end Workbook

/-! ### What stands at a path -/

/-- The extension is one that workbooks have, in any case. -/
def Path.NamesWorkbook (p : Path) : Prop :=
  Text.lowercaseText p.extension ∈ Workbook.supportedExtensions

/-- A file with this content cannot be read at the path: it is not named like a workbook, is none, or
is a spoiled one. -/
def FileContent.UnreadableAt (content : FileContent) (path : Path) : Prop :=
  ¬ path.NamesWorkbook ∨ (∀ w, content ≠ .workbook w) ∨ ∃ w, content = .workbook w ∧ w.Spoiled

namespace FileSystem

variable {fs : FileSystem} {path : Path} {content : FileContent} {w : Workbook}

/-- The path leads to a file. -/
def HasFile (fs : FileSystem) (path : Path) : Prop :=
  ∃ content, fs.find? path = some (.file content)

/-- The path leads to a workbook, is named like one, and nothing spoils the workbook. -/
def Reads (fs : FileSystem) (path : Path) (w : Workbook) : Prop :=
  path.NamesWorkbook ∧ fs.find? path = some (.file (.workbook w)) ∧ ¬ w.Spoiled

theorem formatFault?_eq_none_iff : Workbook.formatFault? path = none ↔ path.NamesWorkbook := by
  unfold Workbook.formatFault? Path.NamesWorkbook
  by_cases hname : Text.lowercaseText path.extension ∈ Workbook.supportedExtensions
  · simp [hname]
  · simp only [hname, if_false, iff_false]
    split_ifs <;> exact nofun

theorem look_eq (hpath : fs.locate path ≠ .error .nameTooLong) :
    fs.look path = .ok (fs.find? path) := by
  unfold look find?
  cases hlocate : fs.locate path with
  | ok place => rfl
  | error fault =>
    cases fault with
    | nameTooLong => exact absurd hlocate hpath
    | missing | alreadyThere | notADirectory | isADirectory | nulInPath => rfl

theorem locate_ne_of_find? (hfile : fs.find? path = some (.file content)) :
    fs.locate path ≠ .error .nameTooLong := by
  intro hlocate
  rw [find?, hlocate] at hfile
  cases hfile

/-- In a directory that exists, a name of more than 255 bytes is not looked up. -/
theorem locate_of_long_name {name : String} (hhere : fs.node? fs.here = some .directory)
    (hnul : '\x00' ∉ name.toList) (hlong : nameLimit < name.utf8ByteSize) :
    fs.locate ⟨.here, [name]⟩ = .error .nameTooLong := by
  have hnul : Path.hasNul ⟨.here, [name]⟩ = false := by simpa [Path.hasNul] using hnul
  rw [locate, hnul]
  simp only [Bool.false_eq_true, if_false, start, if_true, walk, hhere, hlong, ite_self]

theorem openWorkbook_of_nameTooLong (hpath : fs.locate path = .error .nameTooLong) :
    fs.openWorkbook path = .error (.file ⟨.nameTooLong, path⟩) := by
  rw [openWorkbook, look, hpath]

theorem openWorkbook_of_not_hasFile (hpath : fs.locate path ≠ .error .nameTooLong)
    (hnone : ¬ fs.HasFile path) :
    fs.openWorkbook path = .error (.audit (.inputNotFound path)) := by
  rw [openWorkbook, look_eq hpath]
  cases hfind : fs.find? path with
  | none => rfl
  | some node =>
    cases node with
    | directory => rfl
    | file content => exact absurd ⟨content, hfind⟩ hnone

theorem openWorkbook_of_workbook (hname : path.NamesWorkbook)
    (hfile : fs.find? path = some (.file (.workbook w))) : fs.openWorkbook path = .ok w := by
  rw [openWorkbook, look_eq (locate_ne_of_find? hfile), hfile]
  simp only [formatFault?_eq_none_iff.mpr hname]

/-- A file with another extension or another content is not opened. -/
theorem exists_openWorkbook_eq_error (hfile : fs.find? path = some (.file content))
    (hother : ¬ path.NamesWorkbook ∨ ∀ w, content ≠ .workbook w) :
    ∃ reason, fs.openWorkbook path = .error (.audit (.inputUnreadable path (some reason))) := by
  rw [openWorkbook, look_eq (locate_ne_of_find? hfile), hfile]
  cases hformat : Workbook.formatFault? path with
  | some fault => exact ⟨fault.reason, rfl⟩
  | none =>
    cases content with
    | text text => exact ⟨Unreadable.notAnArchive.reason, rfl⟩
    | workbook w =>
      exact (hother.resolve_left (not_not.mpr (formatFault?_eq_none_iff.mp hformat)) w rfl).elim

theorem exists_reads (hfile : fs.find? path = some (.file content))
    (hcontent : ¬ content.UnreadableAt path) : ∃ w, fs.Reads path w := by
  obtain ⟨hname, hrest⟩ := not_or.mp hcontent
  obtain ⟨hworkbook, hsound⟩ := not_or.mp hrest
  obtain ⟨w, hw⟩ := not_forall.mp hworkbook
  obtain rfl := not_not.mp hw
  exact ⟨w, not_not.mp hname, hfile, fun hspoiled ↦ hsound ⟨w, rfl, hspoiled⟩⟩

theorem Reads.not_unreadableAt (h : fs.Reads path w)
    (hfile : fs.find? path = some (.file content)) : ¬ content.UnreadableAt path := by
  obtain ⟨hname, hworkbook, hsound⟩ := h
  obtain rfl : FileContent.workbook w = content := by simpa [hworkbook] using hfile
  rintro (hother | hnone | ⟨v, hv, hspoiled⟩)
  · exact hother hname
  · exact hnone w rfl
  · cases hv
    exact hsound hspoiled

theorem Reads.readRecords (h : fs.Reads path w) : fs.readRecords path = .ok w.records := by
  obtain ⟨hname, hfile, hsound⟩ := h
  have hread : w.readRecords path = .ok w.records := by
    rw [Workbook.readRecords, Workbook.faults_eq_nil_iff_not_spoiled.mpr hsound]
  rw [FileSystem.readRecords, openWorkbook_of_workbook hname hfile]
  exact hread

end FileSystem

/-! ### The result -/

theorem Corpus.isEmpty_ofRecords (k : Classifier) (records : List Record) :
    (ofRecords k records).isEmpty = records.isEmpty := List.isEmpty_map

namespace Analysis

variable {k : Classifier} {fs : FileSystem} {path : Path} {w : Workbook} {corpus : Corpus}
  {content : FileContent} {e : Failure}

theorem result_ofFile (hopen : fs.openWorkbook path = .ok w) :
    (ofFile k fs path).result = (ofWorkbook k path w).result := by
  rw [ofFile, hopen]

theorem result_ofFile_of_error (hopen : fs.openWorkbook path = .error e) :
    (ofFile k fs path).result = .error e := by
  rw [ofFile, hopen]

theorem result_ofWorkbook_eq_ok : (ofWorkbook k path w).result = .ok corpus ↔
    w.faults = [] ∧ corpus = Corpus.ofRecords k w.records ∧ corpus.isEmpty = false := by
  rw [ofWorkbook, Workbook.readRecords]
  cases hfaults : w.faults with
  | cons fault faults => exact ⟨nofun, nofun⟩
  | nil =>
    simp only [true_and]
    split
    case isTrue hempty =>
      refine ⟨nofun, ?_⟩
      rintro ⟨rfl, hfull⟩
      exact absurd hempty (by simp [hfull])
    case isFalse hfull =>
      refine ⟨fun h ↦ ?_, fun ⟨h, _⟩ ↦ by rw [h]⟩
      obtain rfl := Except.ok.inj h
      exact ⟨rfl, by simpa using hfull⟩

/-- A spoiled workbook has no result, even if formulas come before what spoils it. -/
theorem exists_result_of_spoiled (hname : path.NamesWorkbook)
    (hfile : fs.find? path = some (.file (.workbook w))) (hspoiled : w.Spoiled) :
    ∃ fault ∈ w.faults, (ofFile k fs path).result = .error (fault.failure path) := by
  rw [result_ofFile (FileSystem.openWorkbook_of_workbook hname hfile), ofWorkbook,
    Workbook.readRecords]
  cases hfaults : w.faults with
  | nil => exact absurd hspoiled (Workbook.faults_eq_nil_iff_not_spoiled.mp hfaults)
  | cons fault faults => exact ⟨fault, List.mem_cons_self, rfl⟩

theorem result_of_reads_empty (hreads : fs.Reads path w) (hplain : ¬ w.HoldsFormulas) :
    (ofFile k fs path).result = .error (.audit (.emptyCorpus (.workbook path))) := by
  obtain ⟨hname, hfile, hsound⟩ := hreads
  rw [result_ofFile (FileSystem.openWorkbook_of_workbook hname hfile), ofWorkbook,
    Workbook.readRecords, Workbook.faults_eq_nil_iff_not_spoiled.mpr hsound,
    Workbook.records_eq_nil_iff.mpr hplain]
  rfl

theorem result_of_reads (hreads : fs.Reads path w) (hformulas : w.HoldsFormulas) :
    (ofFile k fs path).result = .ok (Tally.aggregate k w.records) := by
  obtain ⟨hname, hfile, hsound⟩ := hreads
  rw [result_ofFile (FileSystem.openWorkbook_of_workbook hname hfile), result_ofWorkbook_eq_ok,
    Tally.aggregate_eq]
  refine ⟨Workbook.faults_eq_nil_iff_not_spoiled.mpr hsound, rfl, ?_⟩
  rw [Corpus.isEmpty_ofRecords, List.isEmpty_eq_false_iff, ne_eq, Workbook.records_eq_nil_iff]
  exact not_not.mpr hformulas

/-- The results that an analysis of the file at a path may have, each with what it takes. -/
inductive Settles (k : Classifier) (fs : FileSystem) (path : Path) : Except Failure Corpus → Prop
  | nameTooLong (hpath : fs.locate path = .error .nameTooLong) :
      Settles k fs path (.error (.file ⟨.nameTooLong, path⟩))
  | notFound (hpath : fs.locate path ≠ .error .nameTooLong) (hnone : ¬ fs.HasFile path) :
      Settles k fs path (.error (.audit (.inputNotFound path)))
  | unreadable {content : FileContent} (hfile : fs.find? path = some (.file content))
      (hcontent : content.UnreadableAt path) (reason : String) :
      Settles k fs path (.error (.audit (.inputUnreadable path (some reason))))
  /-- A span of time that is too long to hold is no reason for a file to be unreadable. -/
  | duration {w : Workbook} (hfile : fs.find? path = some (.file (.workbook w)))
      (hspans : ¬ w.SpansFit) (fault : Duration.Fault) :
      Settles k fs path (.error (.duration fault))
  | empty {w : Workbook} (hreads : fs.Reads path w) (hplain : ¬ w.HoldsFormulas) :
      Settles k fs path (.error (.audit (.emptyCorpus (.workbook path))))
  | filled {w : Workbook} (hreads : fs.Reads path w) (hformulas : w.HoldsFormulas) :
      Settles k fs path (.ok (Tally.aggregate k w.records))

theorem settles_of_unreadableAt (k : Classifier) (hfile : fs.find? path = some (.file content))
    (hcontent : content.UnreadableAt path) : Settles k fs path (ofFile k fs path).result := by
  by_cases hother : ¬ path.NamesWorkbook ∨ ∀ w, content ≠ .workbook w
  · obtain ⟨reason, hopen⟩ := FileSystem.exists_openWorkbook_eq_error hfile hother
    rw [result_ofFile_of_error hopen]
    exact .unreadable hfile hcontent reason
  · obtain ⟨hname, hworkbook⟩ := not_or.mp hother
    obtain ⟨w, rfl, hspoiled⟩ := (hcontent.resolve_left hname).resolve_left hworkbook
    obtain ⟨fault, hfault, hresult⟩ :=
      exists_result_of_spoiled (k := k) (not_not.mp hname) hfile hspoiled
    rw [hresult]
    cases fault with
    | malformed => exact .unreadable hfile hcontent _
    | duration f => exact .duration hfile (fun hspans ↦ nomatch hspans.eq_malformed hfault) f

theorem settles_result (k : Classifier) (fs : FileSystem) (path : Path) :
    Settles k fs path (ofFile k fs path).result := by
  by_cases hpath : fs.locate path = .error .nameTooLong
  · rw [result_ofFile_of_error (FileSystem.openWorkbook_of_nameTooLong hpath)]
    exact .nameTooLong hpath
  by_cases hfile : fs.HasFile path
  · obtain ⟨content, hfile⟩ := hfile
    by_cases hcontent : content.UnreadableAt path
    · exact settles_of_unreadableAt k hfile hcontent
    · obtain ⟨w, hreads⟩ := FileSystem.exists_reads hfile hcontent
      by_cases hformulas : w.HoldsFormulas
      · rw [result_of_reads hreads hformulas]
        exact .filled hreads hformulas
      · rw [result_of_reads_empty hreads hformulas]
        exact .empty hreads hformulas
  · rw [result_ofFile_of_error (FileSystem.openWorkbook_of_not_hasFile hpath hfile)]
    exact .notFound hpath hfile

theorem settles_of_eq {result : Except Failure Corpus} (h : (ofFile k fs path).result = result) :
    Settles k fs path result := by
  rw [← h]
  exact settles_result k fs path

/-! Each result is had exactly if what it takes is there. -/

theorem result_eq_nameTooLong_iff : (ofFile k fs path).result = .error (.file ⟨.nameTooLong, path⟩) ↔
    fs.locate path = .error .nameTooLong := by
  constructor
  · intro h
    cases settles_of_eq h with
    | nameTooLong hpath => exact hpath
  · intro hpath
    exact result_ofFile_of_error (FileSystem.openWorkbook_of_nameTooLong hpath)

theorem result_eq_inputNotFound_iff :
    (ofFile k fs path).result = .error (.audit (.inputNotFound path)) ↔
      fs.locate path ≠ .error .nameTooLong ∧ ¬ fs.HasFile path := by
  constructor
  · intro h
    cases settles_of_eq h with
    | notFound hpath hnone => exact ⟨hpath, hnone⟩
  · intro ⟨hpath, hnone⟩
    exact result_ofFile_of_error (FileSystem.openWorkbook_of_not_hasFile hpath hnone)

/-- The spans of time of the workbook at a path, if there is one, are not too long to hold. -/
def SpansFitAt (fs : FileSystem) (path : Path) : Prop :=
  ∀ w, fs.find? path = some (.file (.workbook w)) → w.SpansFit

theorem exists_result_eq_inputUnreadable_iff (hspans : SpansFitAt fs path) :
    (∃ reason, (ofFile k fs path).result = .error (.audit (.inputUnreadable path (some reason)))) ↔
      ∃ content, fs.find? path = some (.file content) ∧ content.UnreadableAt path := by
  constructor
  · intro ⟨reason, h⟩
    cases settles_of_eq h with
    | unreadable hfile hcontent => exact ⟨_, hfile, hcontent⟩
  · intro ⟨content, hfile, hcontent⟩
    have hsettles := settles_of_unreadableAt k hfile hcontent
    generalize (ofFile k fs path).result = result at hsettles
    cases hsettles with
    | unreadable _ _ reason => exact ⟨reason, rfl⟩
    | nameTooLong hpath => exact absurd hpath (FileSystem.locate_ne_of_find? hfile)
    | notFound _ hnone => exact absurd ⟨content, hfile⟩ hnone
    | duration hworkbook htooLong => exact absurd (hspans _ hworkbook) htooLong
    | empty hreads | filled hreads => exact absurd hcontent (hreads.not_unreadableAt hfile)

theorem result_eq_emptyCorpus_iff :
    (ofFile k fs path).result = .error (.audit (.emptyCorpus (.workbook path))) ↔
      ∃ w, fs.Reads path w ∧ ¬ w.HoldsFormulas := by
  constructor
  · intro h
    cases settles_of_eq h with
    | empty hreads hplain => exact ⟨_, hreads, hplain⟩
  · intro ⟨w, hreads, hplain⟩
    exact result_of_reads_empty hreads hplain

theorem result_eq_ok_iff : (ofFile k fs path).result = .ok corpus ↔
    ∃ w, fs.Reads path w ∧ w.HoldsFormulas ∧ corpus = Tally.aggregate k w.records := by
  constructor
  · intro h
    cases settles_of_eq h with
    | filled hreads hformulas => exact ⟨_, hreads, hformulas, rfl⟩
  · rintro ⟨w, hreads, hformulas, rfl⟩
    exact result_of_reads hreads hformulas

end Analysis

namespace Run

variable {k : Classifier} {fs : FileSystem} {path : Path} {failure : Failure}

/-- A run whose analysis fails changes no file and makes no directory. -/
theorem ofFile_of_failure (h : (Analysis.ofFile k fs path).result = .error failure)
    (settings : Settings) (directory : Option Path) (generated : Moment) :
    (ofFile k settings fs path directory generated).files = fs ∧
      (ofFile k settings fs path directory generated).result = .error failure := by
  unfold ofFile
  simp only [h, and_self]

/-- A file system with nothing but a workbook. -/
def withWorkbook (w : Workbook) : FileSystem :=
  (FileSystem.emptyAt []).put ["b.xlsx"] (.file (.workbook w))

end Run

namespace Analysis

variable {fs : FileSystem} {path : Path}

/-- Each way in which an analysis ends is known from what stands at the path. A corpus is that of all
records of the workbook there, one for each formula cell that the workbook keeps; a failure leaves
everything as it was. -/
theorem result_settled (k : Classifier) (fs : FileSystem) (path : Path) :
    let result := (ofFile k fs path).result
    (result = .error (.file ⟨.nameTooLong, path⟩) ↔ fs.locate path = .error .nameTooLong) ∧
    (result = .error (.audit (.inputNotFound path)) ↔
      fs.locate path ≠ .error .nameTooLong ∧ ¬ fs.HasFile path) ∧
    (SpansFitAt fs path →
      ((∃ reason, result = .error (.audit (.inputUnreadable path (some reason)))) ↔
        ∃ content, fs.find? path = some (.file content) ∧ content.UnreadableAt path)) ∧
    (result = .error (.audit (.emptyCorpus (.workbook path))) ↔
      ∃ w, fs.Reads path w ∧ ¬ w.HoldsFormulas) ∧
    (∀ corpus, result = .ok corpus ↔
      ∃ w, fs.Reads path w ∧ w.HoldsFormulas ∧ corpus = Tally.aggregate k w.records) ∧
    (∀ w, fs.Reads path w → fs.readRecords path = .ok w.records ∧
      ∃ entries, w.ListsKept entries ∧ w.records = entries.map w.recordOf) ∧
    ∀ failure, result = .error failure → ∀ settings directory generated,
      (Run.ofFile k settings fs path directory generated).files = fs ∧
        (Run.ofFile k settings fs path directory generated).result = .error failure := by
  refine ⟨result_eq_nameTooLong_iff, result_eq_inputNotFound_iff,
    exists_result_eq_inputUnreadable_iff, result_eq_emptyCorpus_iff, fun corpus ↦ result_eq_ok_iff,
    fun w hreads ↦ ?records, fun failure h ↦ ?run⟩
  case records => exact ⟨hreads.readRecords, w.formulaCells, w.listsKept_formulaCells, w.records_eq⟩
  case run => exact Run.ofFile_of_failure h

/-- The path at which the file systems below have their workbook. -/
def bookPath : Path := .ofString "b.xlsx"

theorem spansFitAt_withWorkbook {w : Workbook} (hspans : w.SpansFit) :
    SpansFitAt (Run.withWorkbook w) bookPath := by
  intro v hv
  have hfile : (Run.withWorkbook w).find? bookPath = some (.file (.workbook w)) := rfl
  obtain rfl : w = v := by simpa [hfile] using hv
  exact hspans

/-- A formula, and on a later sheet a formula whose stored number is none. -/
def lateFault : Workbook where
  sheets :=
    [{ name := "Data", cells := [⟨⟨1, 1⟩, some (.plain "B1"), .number, "1"⟩] },
     { name := "Late", cells := [⟨⟨7, 2⟩, some (.plain "B2"), .number, "one"⟩] }]

/-- The formula on the first sheet does not save the analysis. -/
theorem result_settled_late_fault :
    SpansFitAt (Run.withWorkbook lateFault) bookPath ∧ lateFault.HoldsFormulas ∧
      (∃ reason, (ofFile .standard (Run.withWorkbook lateFault) bookPath).result =
        .error (.audit (.inputUnreadable bookPath (some reason)))) ∧
      (Run.ofFile .standard .standard (Run.withWorkbook lateFault) bookPath none
        ⟨⟨2024, 1, 2⟩, {}⟩).files = Run.withWorkbook lateFault := by
  have hfile : (Run.withWorkbook lateFault).find? bookPath = some (.file (.workbook lateFault)) := rfl
  have hspans := spansFitAt_withWorkbook (Workbook.spansFit_of_types (w := lateFault) (by decide))
  have hformula : lateFault.HoldsFormulas := by
    exact ⟨_, List.mem_cons_self, _, "B1", ⟨[], [], rfl, nofun⟩, by decide, _, rfl, Or.inl rfl⟩
  have hvalue : Cell.value ⟨⟨7, 2⟩, some (.plain "B2"), .number, "one"⟩ = .error .malformed := by
    decide +kernel
  have hspoiled : lateFault.Spoiled :=
    .value (List.mem_cons_of_mem _ List.mem_cons_self) List.mem_cons_self hvalue
  obtain ⟨-, -, hunreadable, -, -, -, hrun⟩ :=
    result_settled .standard (Run.withWorkbook lateFault) bookPath
  obtain ⟨reason, hresult⟩ :=
    (hunreadable hspans).mpr ⟨_, hfile, Or.inr (Or.inr ⟨lateFault, rfl, hspoiled⟩)⟩
  exact ⟨hspans, hformula, ⟨reason, hresult⟩, (hrun _ hresult _ _ _).1⟩

/-- A formula on a sheet whose name is no title. -/
def starredName : Workbook where
  sheets := [{ name := "a*b", cells := [⟨⟨1, 1⟩, some (.plain "B1"), .number, "1"⟩] }]

/-- A formula whose stored value is a span of a thousand million days. -/
def longSpan : Workbook where
  sheets := [{ name := "S", cells := [⟨⟨1, 1⟩, some (.plain "B1"), .date, "PT24000000000H"⟩] }]

/-- A name of more than 255 bytes. -/
def longName : Path := ⟨.here, [String.ofList (List.replicate 256 'a')]⟩

/-- A workbook named like one in which every value can be read is unreadable for the name of a sheet.
A value that cannot be read leads to another failure if it is a span of time, and so does a path that
leads to no file if it is too long. -/
theorem endings_without_malformed_value :
    (bookPath.NamesWorkbook ∧
      (Run.withWorkbook starredName).find? bookPath = some (.file (.workbook starredName)) ∧
      starredName.ValuesRead ∧ starredName.HoldsFormulas ∧
      ∃ reason, (ofFile .standard (Run.withWorkbook starredName) bookPath).result =
        .error (.audit (.inputUnreadable bookPath (some reason)))) ∧
    (¬ longSpan.ValuesRead ∧
      (ofFile .standard (Run.withWorkbook longSpan) bookPath).result =
        .error (.duration (.beyondRange 1000000000))) ∧
    ¬ (FileSystem.emptyAt []).HasFile longName ∧
      (ofFile .standard (FileSystem.emptyAt []) longName).result =
        .error (.file ⟨.nameTooLong, longName⟩) := by
  have hname : bookPath.NamesWorkbook := by
    unfold Path.NamesWorkbook
    decide +kernel
  have hspan : Cell.value ⟨⟨1, 1⟩, some (.plain "B1"), .date, "PT24000000000H"⟩ =
      .error (.duration (.beyondRange 1000000000)) := by decide +kernel
  have hlocate : (FileSystem.emptyAt []).locate longName = .error .nameTooLong := by
    refine FileSystem.locate_of_long_name rfl ?_ ?_
    · rw [String.toList_ofList, List.mem_replicate]
      decide
    · rw [String.utf8ByteSize_ofList]
      decide +kernel
  refine ⟨⟨hname, rfl, ?values, ?formula, ?unreadable⟩, ⟨?span, ?overflow⟩, ?missing, ?tooLong⟩
  case values =>
    intro s hs cell hcell
    obtain rfl := List.mem_singleton.mp hs
    obtain rfl := List.mem_singleton.mp hcell
    exact ⟨.integer 1, by decide +kernel⟩
  case formula =>
    exact ⟨_, List.mem_cons_self, _, "B1", ⟨[], [], rfl, nofun⟩, by decide, _, rfl, Or.inl rfl⟩
  case unreadable =>
    have hspans := spansFitAt_withWorkbook
      (Workbook.spansFit_of_types (w := starredName) (by decide))
    have hspoiled : starredName.Spoiled :=
      .title List.mem_cons_self (c := '*') (by decide) (by decide)
    exact (exists_result_eq_inputUnreadable_iff hspans).mpr
      ⟨_, rfl, Or.inr (Or.inr ⟨starredName, rfl, hspoiled⟩)⟩
  case span =>
    intro hvalues
    obtain ⟨v, hv⟩ := hvalues _ List.mem_cons_self _ List.mem_cons_self
    cases hspan.symm.trans hv
  case overflow =>
    have hfaults : longSpan.faults = [.duration (.beyondRange 1000000000)] := by decide +kernel
    have hfile : (Run.withWorkbook longSpan).find? bookPath = some (.file (.workbook longSpan)) := rfl
    obtain ⟨fault, hfault, hresult⟩ := exists_result_of_spoiled (k := .standard) hname hfile
      (.value List.mem_cons_self List.mem_cons_self hspan)
    rw [hfaults, List.mem_singleton] at hfault
    rw [hresult, hfault]
    rfl
  case missing =>
    intro ⟨content, hcontent⟩
    exact FileSystem.locate_ne_of_find? hcontent hlocate
  case tooLong => exact result_eq_nameTooLong_iff.mpr hlocate

end Analysis

end FormulaAudit
