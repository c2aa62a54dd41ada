import FormulaAudit.Proofs.FileSystem.Directories
import FormulaAudit.Proofs.FileSystem.Faults
import FormulaAudit.Proofs.Report.Placement

/-!
What writing the reports changes, and why it fails. A writing that succeeds changes the places of the
reports and makes the directories on the way to them, and nothing else (`changes_of_success`). The
reports on a corpus that is not empty fail for a file only, and not for a NUL character if no text
that the paths are made of has one (`exists_fault_of_failure`).
-/

set_option autoImplicit false

namespace FormulaAudit

namespace Written

variable {fs : FileSystem} {directory : Path} {texts : List (String × String)} {e : FileError}

theorem makesWay_ofDirectory (fs : FileSystem) (directory : Path) :
    fs.MakesWay (ofDirectory fs directory).files directory := by
  have hmade := FileSystem.makesWay_makeDirectories fs directory
  unfold ofDirectory
  split
  case h_1 | h_2 => exact .refl fs directory
  case h_3 => split <;> simp_all

theorem fault_ne_nulInPath_of_ofDirectory (hdirectory : directory.hasNul = false)
    (h : (ofDirectory fs directory).error = some e) : e.fault ≠ .nulInPath := by
  unfold ofDirectory at h
  split at h
  case h_1 fault hlook =>
    cases h
    exact FileSystem.fault_ne_nulInPath_of_look hlook
  case h_2 => cases h
  case h_3 =>
    have hmade : (fs.makeDirectories directory).2 = some e := by split at h <;> simp_all
    exact FileSystem.fault_ne_nulInPath_of_makeDirectories hdirectory hmade

theorem fault_ne_nulInPath_of_ofTexts (hdirectory : directory.hasNul = false)
    (hnames : ∀ named ∈ texts, '\x00' ∉ named.1.toList)
    (h : (ofTexts fs directory texts).error = some e) : e.fault ≠ .nulInPath := by
  induction texts generalizing fs with
  | nil => cases h
  | cons named texts ih =>
    obtain ⟨hname, hnames⟩ := List.forall_mem_cons.mp hnames
    have hpath := Path.hasNul_join hdirectory (Path.hasNul_ofString hname)
    rw [ofTexts] at h
    split at h
    case h_1 fault hwrite =>
      cases h
      exact FileSystem.fault_ne_nulInPath_of_write hpath hwrite
    case h_2 => exact ih hnames h

end Written

/-- No name of a report holds a NUL character. -/
def Settings.NamesFreeOfNul (settings : Settings) : Prop :=
  ∀ fileName ∈ settings.reportNames, '\x00' ∉ fileName.toList

namespace Corpus

variable {c : Corpus} {fs : FileSystem} {settings : Settings} {directory : Path} {name : String}
  {generated : Moment} {paths : ReportPaths}

theorem mem_reportNames {named : String × String}
    (h : named ∈ c.reportTexts settings name generated) : named.1 ∈ settings.reportNames :=
  List.mem_map_of_mem (f := Prod.fst) (mem_namedReports h)

theorem exists_fault_of_failure (hfull : c.isEmpty = false) (hdirectory : directory.hasNul = false)
    (hnames : settings.NamesFreeOfNul) {failure : Failure}
    (h : (c.writeReports fs settings directory name generated).result = .error failure) :
    ∃ e, failure = .file e ∧ e.fault ≠ .nulInPath := by
  rcases writeReports_cases fs settings directory name generated hfull with
    ⟨e, hmade, -, hfailure⟩ | ⟨-, -, ⟨e, hwritten, hfailure⟩ | ⟨-, hsuccess⟩⟩
  · obtain rfl := Except.error.inj (hfailure.symm.trans h)
    exact ⟨e, rfl, Written.fault_ne_nulInPath_of_ofDirectory hdirectory hmade⟩
  · obtain rfl := Except.error.inj (hfailure.symm.trans h)
    exact ⟨e, rfl, Written.fault_ne_nulInPath_of_ofTexts hdirectory
      (fun named hnamed ↦ hnames _ (mem_reportNames hnamed)) hwritten⟩
  · cases hsuccess.symm.trans h

/-- A writing that succeeds changes nothing but the places of the reports, and makes directories
where nothing was on the way to them. -/
theorem changes_of_success
    (hsuccess : (c.writeReports fs settings directory name generated).result = .ok paths) :
    let after := (c.writeReports fs settings directory name generated).files
    after.here = fs.here ∧ ∀ place, after.node? place = fs.node? place ∨
      (∃ report ∈ paths.toList, after.locate report = .ok place) ∨
      fs.node? place = none ∧ after.node? place = some .directory ∧
        ∃ front, front <+: directory.parts ∧
          after.locate { directory with parts := front } = .ok place := by
  intro after
  obtain ⟨rfl, written, stored, hafter, hstores⟩ := exists_stores_of_success hsuccess
  rw [show after = written.files from hafter]
  have hway := Written.makesWay_ofDirectory fs directory
  refine ⟨hstores.directories.1.trans hway.here, fun place ↦ ?_⟩
  have hnode := hstores.node? place
  rw [Written.lastAt_eq_textGoingTo hstores.goesTo] at hnode
  cases htext : Written.textGoingTo (Written.ofDirectory fs directory).files directory
      (c.reportTexts settings name generated) place with
  | some text =>
    obtain ⟨fileName, hmem, hplace⟩ := Written.mem_of_textGoingTo htext
    have hlocate := hstores.directories.locate.mpr hplace
    have hname := mem_reportNames hmem
    simp only [Settings.reportNames, List.mem_cons, List.not_mem_nil, or_false] at hname
    refine .inr (.inl ⟨directory.join (.ofString fileName), ?_, hlocate⟩)
    rcases hname with rfl | rfl | rfl
    · exact .tail _ (.head _)
    · exact .tail _ (.tail _ (.head _))
    · exact .head _
  | none =>
    rw [htext, Option.map_none, Option.none_or] at hnode
    rw [hnode]
    refine (hway.node? place).imp_right ?_
    rintro ⟨hnone, hdirectory, front, hfront, hlocate⟩
    exact .inr ⟨hnone, hdirectory, front, hfront, hstores.directories.locate.mpr hlocate⟩

end Corpus

end FormulaAudit
