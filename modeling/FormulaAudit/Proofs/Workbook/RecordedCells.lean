import FormulaAudit.Proofs.Analysis
import FormulaAudit.Proofs.Workbook.Position

/-!
What is recorded of a workbook that is read. Formula cells and records correspond one to one, in the
order of sheets, rows and columns, and a record has the place, the formula and the shown value of its
cell (`readRecords_correspond`). Formulas and values come from two readings of the file that are
joined by the title of the sheet and the position of the cell. The value is that of the cell itself,
whatever stands at the same position of other sheets, as long as no earlier sheet goes by the same
title; else it is what stands at that position of the first sheet under the title
(`record_of_sheet_with_taken_title`).
-/

set_option autoImplicit false

namespace FormulaAudit

/-- The text is what the stored value of the cell is shown as. -/
structure Cell.ShownAs (cell : Cell) (text : String) : Prop where
  display : ∃ v, cell.value = .ok v ∧ text = v.display
  absent : cell.stored = "" → text = ""
  truth : cell.type = .truth → cell.stored ≠ "" →
    ∃ n, Numeral.integer? cell.stored = some n ∧ text = if n = 0 then "FALSE" else "TRUE"

theorem Cell.shownAs_display {cell : Cell} {v : CellValue} (hvalue : cell.value = .ok v) :
    cell.ShownAs v.display where
  display := ⟨v, hvalue, rfl⟩
  absent hstored := by
    unfold value CellValue.read at hvalue
    rw [if_pos hstored] at hvalue
    obtain rfl := Except.ok.inj hvalue
    rfl
  truth htype hstored := by
    unfold value CellValue.read at hvalue
    rw [if_neg hstored, htype] at hvalue
    cases hinteger : Numeral.integer? cell.stored with
    | none => simp [hinteger, CellValue.orMalformed] at hvalue
    | some n =>
      simp only [hinteger, Option.map_some, CellValue.orMalformed, Except.ok.injEq] at hvalue
      refine ⟨n, rfl, ?_⟩
      rw [← hvalue, CellValue.display]
      by_cases hn : n = 0 <;> simp [hn]

/-- Two cells that are listed in the other order. -/
theorem Sheet.sorted_pair {first second : Cell}
    (hbefore : second.position.isBefore first.position = false) :
    sorted [second, first] = [first, second] := by
  simp [sorted, List.mergeSort, hbefore]

namespace Workbook

variable {w : Workbook} {e : FormulaCell}

/-- The record has the place, the formula and the shown value of the formula cell. -/
structure RecordedAs (w : Workbook) (e : FormulaCell) (r : Record) : Prop where
  sheet : r.sheet = w.titleAt e.sheet
  formula : r.formula = e.formula
  row : r.row = some (e.cell.position.row : Int)
  column : r.column = some (e.cell.position.column : Int)
  cell : r.cell = e.cell.position.toText
  /-- The position is read back from its text, whatever reference the file has for the cell. -/
  position : ∀ reference, Position.read? reference = some e.cell.position →
    Position.read? r.cell = some e.cell.position
  /-- The value is what the first sheet under the title of the cell's sheet shows there. -/
  first : ∃ s, w.FirstUnder (w.titleAt e.sheet) s ∧ s.Shows e.cell.position r.value
  /-- It is the value of the cell itself if no earlier sheet has that title. -/
  own : (∀ i < e.sheet, w.titleAt i ≠ w.titleAt e.sheet) → e.cell.ShownAs r.value
  /-- That is so if the names differ by more than letter case; then titles are the names. -/
  named : "" ∉ w.sheetNames → (w.sheetNames.map Text.lowercaseText).Nodup →
    w.sheetNames[e.sheet]? = some r.sheet ∧ e.cell.ShownAs r.value

theorem recordedAs_recordOf (hcells : w.DistinctPositions) (hvalues : w.ValuesRead)
    (he : e ∈ w.formulaCells) : w.RecordedAs e (w.recordOf e) := by
  obtain ⟨hfirst, hown, hnamed⟩ := w.showsValues_recordOf hcells hvalues
  have hshown : (∀ i < e.sheet, w.titleAt i ≠ w.titleAt e.sheet) →
      e.cell.ShownAs (w.recordOf e).value := fun hearlier ↦ by
    obtain ⟨v, hvalue, hdisplay⟩ := hown e he hearlier
    rw [hdisplay]
    exact Cell.shownAs_display hvalue
  exact {
    sheet := rfl
    formula := rfl
    row := rfl
    column := rfl
    cell := rfl
    position := fun _ hread ↦ Position.read?_toText (Position.column_ne_zero_of_read? hread)
    first := hfirst e he
    own := hshown
    named := fun hempty hnames ↦
      have ⟨hname, hearlier⟩ := hnamed hempty hnames e he
      ⟨hname, hshown hearlier⟩ }

theorem forall₂_recordedAs (hcells : w.DistinctPositions) (hvalues : w.ValuesRead) :
    List.Forall₂ w.RecordedAs w.formulaCells w.records := by
  rw [records_eq, List.forall₂_map_right_iff, List.forall₂_same]
  exact fun e he ↦ recordedAs_recordOf hcells hvalues he

/-- No formula cell is listed for a sheet without formulas. -/
theorem Lists.sheet_ne {entries : List FormulaCell} (hlists : w.Lists entries) {i : ℕ} {s : Sheet}
    (hs : w.sheets[i]? = some s) (hplain : ∀ cell ∈ s.cells, ∀ text, ¬ cell.HoldsFormula text) :
    ∀ e ∈ entries, e.sheet ≠ i := by
  rintro e he rfl
  obtain ⟨sheet, hsheet, hcell, hformula⟩ := (hlists.mem e).mp he
  obtain rfl := Option.some.inj (hs.symm.trans hsheet)
  exact hplain e.cell hcell e.formula hformula

end Workbook

namespace FileSystem

variable {fs : FileSystem} {path : Path} {w : Workbook}

/-- A workbook that is read is read with its cells in any other order, and has the same records. -/
theorem Reads.readRecords_of_sameCells {fs' : FileSystem} {path' : Path} {v : Workbook}
    (hreads : fs.Reads path w) (hcells : w.DistinctPositions) (hsame : w.SameCells v)
    (hname : path'.NamesWorkbook) (hfile : fs'.find? path' = some (.file (.workbook v))) :
    fs'.readRecords path' = .ok w.records := by
  obtain ⟨hrecords, hfaults⟩ := hsame.records_faults hcells
  have hsound : ¬ v.Spoiled := by
    rw [← Workbook.faults_eq_nil_iff_not_spoiled, hfaults, Workbook.faults_eq_nil_iff_not_spoiled]
    exact hreads.2.2
  rw [← hrecords]
  exact Reads.readRecords ⟨hname, hfile, hsound⟩

/-- The records of a workbook that is read are those of its formula cells, one for each in the order
of sheets, rows and columns, whatever the order in which the workbook lists its cells. -/
theorem readRecords_correspond (hreads : fs.Reads path w) (hcells : w.DistinctPositions) :
    ∃ entries records, fs.readRecords path = .ok records ∧ w.Lists entries ∧
      List.Forall₂ w.RecordedAs entries records ∧
      (∀ (i : ℕ) (s : Sheet), w.sheets[i]? = some s →
        (∀ cell ∈ s.cells, ∀ text, ¬ cell.HoldsFormula text) → ∀ e ∈ entries, e.sheet ≠ i) ∧
      ∀ v : Workbook, w.SameCells v → ∀ (fs' : FileSystem) (path' : Path), path'.NamesWorkbook →
        fs'.find? path' = some (.file (.workbook v)) → fs'.readRecords path' = .ok records := by
  have hvalues := w.valuesRead_of_faults (Workbook.faults_eq_nil_iff_not_spoiled.mpr hreads.2.2)
  have hlists := w.lists_formulaCells hcells
  exact ⟨w.formulaCells, w.records, hreads.readRecords, hlists,
    Workbook.forall₂_recordedAs hcells hvalues, fun _ _ hs hplain ↦ hlists.sheet_ne hs hplain,
    fun _ hsame _ _ hname hfile ↦ hreads.readRecords_of_sameCells hcells hsame hname hfile⟩

theorem namesWorkbook_bookPath : Analysis.bookPath.NamesWorkbook := by
  unfold Path.NamesWorkbook
  decide +kernel

theorem reads_withWorkbook (hfaults : w.faults = []) :
    (Run.withWorkbook w).Reads Analysis.bookPath w :=
  ⟨namesWorkbook_bookPath, rfl, Workbook.faults_eq_nil_iff_not_spoiled.mp hfaults⟩

def positive : Cell := ⟨⟨2, 28⟩, some (.array "B1:B2>0"), .truth, "1"⟩

def unsaved : Cell := ⟨⟨1, 1⟩, some (.plain "B1"), .number, ""⟩

/-- Sheets with formulas at one position, and between them a sheet with a number there. -/
def sparse : Workbook where
  sheets :=
    [{ name := "Data", cells := [positive, unsaved] },
     { name := "Plain", cells := [⟨⟨1, 1⟩, none, .number, "7"⟩] },
     { name := "More", cells := [⟨⟨1, 1⟩, some (.plain "B2"), .number, "3"⟩] }]

theorem records_sparse : sparse.records =
    [⟨"Data", "A1", "B1", "", some 1, some 1⟩,
      ⟨"Data", "AB2", "B1:B2>0", "TRUE", some 2, some 28⟩,
      ⟨"More", "A1", "B2", "3", some 1, some 1⟩] := by
  have htitled : sparse.titledSheets =
      [("Data", { name := "Data", cells := [positive, unsaved] }),
        ("Plain", { name := "Plain", cells := [⟨⟨1, 1⟩, none, .number, "7"⟩] }),
        ("More", { name := "More", cells := [⟨⟨1, 1⟩, some (.plain "B2"), .number, "3"⟩] })] := by
    decide +kernel
  have hdata : Sheet.inOrder { name := "Data", cells := [positive, unsaved] } =
      [unsaved, positive] := by
    rw [Sheet.inOrder, Sheet.latest_of_nodup (by decide),
      Sheet.sorted_pair (by decide)]
  simp only [Workbook.records, htitled, List.flatMap_cons, List.flatMap_nil, Workbook.sheetRecords,
    hdata]
  decide +kernel

theorem readRecords_correspond_sparse :
    (Run.withWorkbook sparse).Reads Analysis.bookPath sparse ∧ sparse.DistinctPositions ∧
      ∃ entries, sparse.Lists entries ∧
        List.Forall₂ sparse.RecordedAs entries
          [⟨"Data", "A1", "B1", "", some 1, some 1⟩,
            ⟨"Data", "AB2", "B1:B2>0", "TRUE", some 2, some 28⟩,
            ⟨"More", "A1", "B2", "3", some 1, some 1⟩] := by
  have hreads : (Run.withWorkbook sparse).Reads Analysis.bookPath sparse :=
    reads_withWorkbook (Workbook.faults_eq_nil_iff.mpr (by decide +kernel))
  have hcells : sparse.DistinctPositions := by decide
  obtain ⟨entries, records, hread, hlists, hrecorded, -⟩ := readRecords_correspond hreads hcells
  obtain rfl := Except.ok.inj (hreads.readRecords.symm.trans hread)
  exact ⟨hreads, hcells, entries, hlists, records_sparse ▸ hrecorded⟩

/-- Different names of which the last two go by one title. -/
def sharedTitle : Workbook where
  sheets :=
    [{ name := "A,a" }, { name := "xa" },
     { name := "a,a1", cells := [⟨⟨1, 1⟩, none, .number, "7"⟩] },
     { name := "a,a", cells := [⟨⟨1, 1⟩, some (.plain "B1"), .truth, "1"⟩] }]

/-- The formula on the last sheet is recorded with the number that stands on the sheet before. -/
theorem record_of_sheet_with_taken_title :
    sharedTitle.sheetNames.Nodup ∧ sharedTitle.DistinctPositions ∧
      (Run.withWorkbook sharedTitle).Reads Analysis.bookPath sharedTitle ∧
      (Run.withWorkbook sharedTitle).readRecords Analysis.bookPath =
        .ok [⟨"a,a1", "A1", "B1", "7", some 1, some 1⟩] ∧
      ∃ s ∈ sharedTitle.sheets, s.name = "a,a" ∧ ∃ cell, s.cells = [cell] ∧
        cell.HoldsFormula "B1" ∧ cell.ShownAs "TRUE" := by
  have hreads : (Run.withWorkbook sharedTitle).Reads Analysis.bookPath sharedTitle :=
    reads_withWorkbook (by decide +kernel)
  have hcells : sharedTitle.DistinctPositions := by decide
  have hrecords : sharedTitle.records = [⟨"a,a1", "A1", "B1", "7", some 1, some 1⟩] := by
    decide +kernel
  have hvalue : Cell.value ⟨⟨1, 1⟩, some (.plain "B1"), .truth, "1"⟩ = .ok (.truth true) := by
    decide +kernel
  refine ⟨by decide, hcells, hreads, by rw [hreads.readRecords, hrecords], _,
    List.mem_of_getElem? (i := 3) rfl, rfl, _, rfl, ?formula, ?shown⟩
  case formula => exact ⟨by decide, _, rfl, Or.inl rfl⟩
  case shown => exact Cell.shownAs_display hvalue

end FileSystem

end FormulaAudit
