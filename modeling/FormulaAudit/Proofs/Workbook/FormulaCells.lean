import FormulaAudit.Proofs.Workbook.Sheet
import FormulaAudit.Proofs.Workbook.Title
import FormulaAudit.Workbook.Records
import Mathlib.Data.List.Forall2
import Mathlib.Data.List.Range

/-!
The records of a workbook and its formula cells. There is one record for each cell with a formula
that its sheet keeps, in the order of sheets, rows and columns (`listsKept_formulaCells`,
`records_eq`); where positions are distinct, sheets keep all of their cells (`lists_formulaCells`). A
record has the value that the first sheet under the title of the cell's sheet shows at the position of
the cell (`showsValues_recordOf`); that is the value of the cell itself unless titles are taken twice,
which does not happen where sheet names differ by more than letter case (`titlesOf_eq`).
-/

set_option autoImplicit false

namespace FormulaAudit

/-! ### Formula cells -/

/-- The cell has a formula that is written as an equals sign and more text behind it, for a single
cell or for a range of cells. -/
def Cell.HoldsFormula (cell : Cell) (text : String) : Prop :=
  text ≠ "" ∧ ∃ formula, cell.formula = some formula ∧
    (formula.value = .text ("=" ++ text) ∨ formula.value = .arrayFormula ("=" ++ text))

theorem CellValue.afterEquals?_eq_some {written text : String} :
    afterEquals? ('=' :: written.toList) = some text ↔ text ≠ "" ∧ written = text := by
  cases hcs : written.toList with
  | nil =>
    have hempty : written = "" := String.toList_inj.mp hcs
    rw [hempty]
    exact ⟨nofun, fun ⟨hne, heq⟩ ↦ absurd heq.symm hne⟩
  | cons c cs =>
    have hwritten : written = String.ofList (c :: cs) := by rw [← hcs, String.ofList_toList]
    have hne : written ≠ "" := by
      rintro rfl
      cases hcs
    rw [afterEquals?, Option.some_inj, ← hwritten]
    exact ⟨fun heq ↦ ⟨heq ▸ hne, heq⟩, fun h ↦ h.2⟩

theorem Cell.formulaText?_eq_some {cell : Cell} {text : String} :
    cell.formulaText? = some text ↔ cell.HoldsFormula text := by
  have hinj : ∀ written : String, "=" ++ written = "=" ++ text ↔ written = text := fun written ↦ by
    rw [← String.toList_inj, String.toList_append, String.toList_append, List.append_cancel_left_eq,
      String.toList_inj]
  rw [formulaText?, content, HoldsFormula]
  cases cell.formula with
  | none => simp [CellValue.cellFormula?]
  | some formula =>
    cases formula with
    | plain written =>
      simp [CellValue.cellFormula?, CellFormula.value, CellValue.formulaText?,
        CellValue.afterEquals?_eq_some, hinj]
    | array written =>
      simp [CellValue.cellFormula?, CellFormula.value, CellValue.formulaText?,
        CellValue.afterEquals?_eq_some, hinj]
    | dataTable => simp [CellValue.cellFormula?, CellFormula.value, CellValue.formulaText?]

/-- A cell with a formula, and the number of its sheet. -/
structure FormulaCell where
  sheet : Nat
  cell : Cell
  formula : String

/-- On an earlier sheet, or before it on the same sheet. -/
def FormulaCell.Before (a b : FormulaCell) : Prop :=
  a.sheet < b.sheet ∨ (a.sheet = b.sheet ∧ a.cell.position.Before b.cell.position)

namespace Workbook

variable {w : Workbook} {s : Sheet}

/-- The entries are the formula cells of the workbook, each once, in the order of sheets, rows and
columns. -/
structure Lists (w : Workbook) (entries : List FormulaCell) : Prop where
  mem (e : FormulaCell) : e ∈ entries ↔
    ∃ s, w.sheets[e.sheet]? = some s ∧ e.cell ∈ s.cells ∧ e.cell.HoldsFormula e.formula
  ordered : entries.Pairwise FormulaCell.Before

/-- The entries are the formula cells that the workbook keeps, each once, in the order of sheets,
rows and columns. -/
structure ListsKept (w : Workbook) (entries : List FormulaCell) : Prop where
  mem (e : FormulaCell) : e ∈ entries ↔
    ∃ s, w.sheets[e.sheet]? = some s ∧ s.Keeps e.cell ∧ e.cell.HoldsFormula e.formula
  ordered : entries.Pairwise FormulaCell.Before

def DistinctPositions (w : Workbook) : Prop := ∀ s ∈ w.sheets, s.DistinctPositions

instance (w : Workbook) : Decidable w.DistinctPositions :=
  inferInstanceAs (Decidable (∀ s ∈ w.sheets, s.DistinctPositions))

def formulaCells (w : Workbook) : List FormulaCell :=
  w.sheets.zipIdx.flatMap fun (s, i) ↦
    s.inOrder.filterMap fun cell ↦ cell.formulaText?.map (⟨i, cell, ·⟩)

theorem mem_sheetCells {i : Nat} {e : FormulaCell} :
    e ∈ s.inOrder.filterMap (fun cell ↦ cell.formulaText?.map (⟨i, cell, ·⟩)) ↔
      e.sheet = i ∧ s.Keeps e.cell ∧ e.cell.HoldsFormula e.formula := by
  rw [List.mem_filterMap]
  constructor
  · rintro ⟨cell, hcell, hmap⟩
    obtain ⟨text, htext, rfl⟩ := Option.map_eq_some_iff.mp hmap
    exact ⟨rfl, Sheet.mem_inOrder.mp hcell, Cell.formulaText?_eq_some.mp htext⟩
  · rintro ⟨rfl, hcell, hformula⟩
    refine ⟨e.cell, Sheet.mem_inOrder.mpr hcell, ?_⟩
    rw [Cell.formulaText?_eq_some.mpr hformula]
    rfl

theorem listsKept_formulaCells (w : Workbook) : w.ListsKept w.formulaCells where
  mem e := by
    rw [formulaCells, List.mem_flatMap]
    constructor
    · rintro ⟨⟨s, i⟩, hmem, he⟩
      obtain ⟨rfl, hcell⟩ := mem_sheetCells.mp he
      exact ⟨s, List.mem_zipIdx_iff_getElem?.mp hmem, hcell⟩
    · rintro ⟨s, hs, hcell⟩
      exact ⟨(s, e.sheet), List.mem_zipIdx_iff_getElem?.mpr hs, mem_sheetCells.mpr ⟨rfl, hcell⟩⟩
  ordered := by
    rw [formulaCells, List.pairwise_flatMap]
    refine ⟨fun ⟨s, i⟩ _ ↦ ?_, ?_⟩
    · simp only [List.pairwise_filterMap]
      refine s.pairwise_inOrder.imp fun {a b} hab x hx y hy ↦ ?_
      obtain ⟨-, -, rfl⟩ := Option.map_eq_some_iff.mp hx
      obtain ⟨-, -, rfl⟩ := Option.map_eq_some_iff.mp hy
      exact .inr ⟨rfl, hab⟩
    · have hindices : w.sheets.zipIdx.Pairwise fun a b ↦ a.2 < b.2 := by
        rw [← List.pairwise_map, List.zipIdx_map_snd]
        exact List.pairwise_lt_range'
      refine hindices.imp fun {a b} hlt x hx y hy ↦ ?_
      obtain ⟨hfirst, -⟩ := mem_sheetCells.mp hx
      obtain ⟨hsecond, -⟩ := mem_sheetCells.mp hy
      exact .inl (by rwa [hfirst, hsecond])

theorem lists_formulaCells (hw : w.DistinctPositions) : w.Lists w.formulaCells where
  mem e := by
    rw [w.listsKept_formulaCells.mem]
    refine exists_congr fun s ↦ and_congr_right fun hs ↦ and_congr_left' ?_
    exact Sheet.keeps_iff_mem (hw s (List.mem_of_getElem? hs))
  ordered := w.listsKept_formulaCells.ordered

/-! ### Titles -/

/-- The title of a sheet by its number. -/
def titleAt (w : Workbook) (i : Nat) : String := (titlesOf w.sheetNames)[i]?.getD ""

theorem titledSheets_eq (w : Workbook) :
    w.titledSheets = w.sheets.zipIdx.map fun (s, i) ↦ (w.titleAt i, s) := by
  have hlength : (titlesOf w.sheetNames).length = w.sheets.length := by
    rw [length_titlesOf, sheetNames, List.length_map]
  refine List.ext_getElem (by simp [titledSheets, hlength]) fun i hi _ ↦ ?_
  have htitle : i < (titlesOf w.sheetNames).length := by
    rw [titledSheets, List.length_zip] at hi
    omega
  simp [titledSheets, titleAt, htitle]

theorem getElem?_titledSheets (w : Workbook) (i : Nat) :
    w.titledSheets[i]? = w.sheets[i]?.map fun s ↦ (w.titleAt i, s) := by
  rw [titledSheets_eq, List.getElem?_map, List.getElem?_zipIdx, Option.map_map]
  simp [Function.comp_def]

/-- The sheet is the first one under its title. -/
def FirstUnder (w : Workbook) (title : String) (s : Sheet) : Prop :=
  ∃ i, w.sheets[i]? = some s ∧ w.titleAt i = title ∧ ∀ j < i, w.titleAt j ≠ title

theorem exists_lookup_titledSheets {i : Nat} (hs : w.sheets[i]? = some s) :
    ∃ first, w.titledSheets.lookup (w.titleAt i) = some first ∧
      w.FirstUnder (w.titleAt i) first := by
  cases hlookup : w.titledSheets.lookup (w.titleAt i) with
  | none =>
    have hmem : (w.titleAt i, s) ∈ w.titledSheets :=
      List.mem_of_getElem? (by rw [getElem?_titledSheets, hs]; rfl)
    simpa using List.lookup_eq_none_iff.mp hlookup _ hmem
  | some first =>
    refine ⟨first, rfl, ?_⟩
    obtain ⟨before, after, htitled, hbefore⟩ := List.lookup_eq_some_iff.mp hlookup
    have hfirst : w.titledSheets[before.length]? = some (w.titleAt i, first) := by
      rw [htitled, List.getElem?_append_right (Nat.le_refl _), Nat.sub_self,
        List.getElem?_cons_zero]
    rw [getElem?_titledSheets] at hfirst
    obtain ⟨sheet, hsheet, hpair⟩ := Option.map_eq_some_iff.mp hfirst
    obtain ⟨htitle, rfl⟩ := Prod.mk.inj hpair
    refine ⟨before.length, hsheet, htitle, fun j hj heq ↦ ?_⟩
    have hearlier : w.titledSheets[j]? = some before[j] := by
      rw [htitled, List.getElem?_append_left hj, List.getElem?_eq_getElem hj]
    rw [getElem?_titledSheets] at hearlier
    obtain ⟨_, -, hpair⟩ := Option.map_eq_some_iff.mp hearlier
    have hne := hbefore before[j] (List.getElem_mem hj)
    rw [← hpair, heq] at hne
    simp at hne

/-! ### Records -/

/-- The record of a formula cell. -/
def recordOf (w : Workbook) (e : FormulaCell) : Record :=
  record w.titledSheets (w.titleAt e.sheet) e.cell e.formula

theorem records_eq (w : Workbook) : w.records = w.formulaCells.map w.recordOf := by
  have hall : ∀ titled, (w.titledSheets.flatMap fun entry ↦ sheetRecords titled entry.1 entry.2) =
      w.formulaCells.map fun e ↦ record titled (w.titleAt e.sheet) e.cell e.formula := by
    intro titled
    rw [titledSheets_eq, List.flatMap_map, formulaCells, List.map_flatMap]
    refine List.flatMap_congr fun entry _ ↦ ?_
    simp [sheetRecords, List.map_filterMap, Function.comp_def]
  exact hall w.titledSheets

/-- All texts of values can be read. -/
def ValuesRead (w : Workbook) : Prop := ∀ s ∈ w.sheets, ∀ cell ∈ s.cells, ∃ v, cell.value = .ok v

theorem faults_eq_nil_iff : w.faults = [] ↔
    ∀ s ∈ w.sheets, isTitle s.name = true ∧ ∀ cell ∈ s.cells, cell.fault? true = none := by
  rw [faults, List.append_eq_nil_iff, List.flatMap_eq_nil_iff, List.flatMap_eq_nil_iff]
  simp only [List.append_eq_nil_iff, Sheet.faults_eq_nil_iff, ite_eq_left_iff, reduceCtorEq,
    imp_false, not_not]
  exact ⟨fun h s hs ↦ ⟨(h.1 s hs).1, h.2 s hs⟩,
    fun h ↦ ⟨fun s hs ↦ ⟨(h s hs).1, fun cell hcell ↦ Cell.fault?_eq_none _ ((h s hs).2 cell hcell)⟩,
      fun s hs ↦ (h s hs).2⟩⟩

theorem valuesRead_of_faults (hfaults : w.faults = []) : w.ValuesRead := by
  intro s hs cell hcell
  exact (Cell.fault?_eq_none_iff.mp ((faults_eq_nil_iff.mp hfaults s hs).2 cell hcell)).2

theorem shows_value_recordOf (hw : w.DistinctPositions) (hvalues : w.ValuesRead) {e : FormulaCell}
    (he : w.sheets[e.sheet]? = some s) : ∃ first, w.FirstUnder (w.titleAt e.sheet) first ∧
      first.Shows e.cell.position (w.recordOf e).value := by
  obtain ⟨first, hlookup, hfirst⟩ := exists_lookup_titledSheets he
  have hmem : first ∈ w.sheets := List.mem_of_getElem? hfirst.choose_spec.1
  refine ⟨first, hfirst, ?_⟩
  rw [recordOf, record, valueAt, hlookup]
  exact Sheet.shows_valueAt (hw first hmem) (hvalues first hmem) e.cell.position

/-- A sheet whose title no earlier sheet has is the first one under it. -/
theorem FirstUnder.eq {i : Nat} (hfirst : w.FirstUnder (w.titleAt i) s)
    (hearlier : ∀ j < i, w.titleAt j ≠ w.titleAt i) : w.sheets[i]? = some s := by
  obtain ⟨j, hs, htitle, hnone⟩ := hfirst
  rcases Nat.lt_trichotomy i j with hlt | rfl | hlt
  · exact absurd rfl (hnone i hlt)
  · exact hs
  · exact absurd htitle (hearlier j hlt)

theorem titleAt_of_distinct (hempty : "" ∉ w.sheetNames)
    (hnames : (w.sheetNames.map Text.lowercaseText).Nodup) {i : Nat}
    (hs : w.sheets[i]? = some s) :
    w.sheetNames[i]? = some (w.titleAt i) ∧ ∀ j < i, w.titleAt j ≠ w.titleAt i := by
  have hget : ∀ j, w.titleAt j = w.sheetNames[j]?.getD "" := fun j ↦ by
    rw [titleAt, titlesOf_eq hempty hnames]
  obtain ⟨hi, -⟩ := List.getElem?_eq_some_iff.mp hs
  have hi : i < w.sheetNames.length := by simpa [sheetNames] using hi
  refine ⟨by simp [hget, hi], fun j hj heq ↦ ?_⟩
  simp only [hget, List.getElem?_eq_getElem hi, List.getElem?_eq_getElem (hj.trans hi),
    Option.getD_some] at heq
  exact absurd ((hnames.of_map _).getElem_inj_iff.mp heq) (Nat.ne_of_lt hj)

/-- The values of formula cells, as the workbook shows them. -/
structure ShowsValues (w : Workbook) (entries : List FormulaCell) (value : FormulaCell → String) :
    Prop where
  /-- It is what the first sheet under the title of the cell's sheet shows at its position. -/
  first : ∀ e ∈ entries, ∃ s, w.FirstUnder (w.titleAt e.sheet) s ∧
    s.Shows e.cell.position (value e)
  /-- It is the value of the cell itself if no earlier sheet has that title. -/
  own : ∀ e ∈ entries, (∀ i < e.sheet, w.titleAt i ≠ w.titleAt e.sheet) →
    ∃ v, e.cell.value = .ok v ∧ value e = v.display
  /-- That is so if the names differ by more than letter case; then titles are the names. -/
  named : "" ∉ w.sheetNames → (w.sheetNames.map Text.lowercaseText).Nodup →
    ∀ e ∈ entries, w.sheetNames[e.sheet]? = some (w.titleAt e.sheet) ∧
      ∀ i < e.sheet, w.titleAt i ≠ w.titleAt e.sheet

theorem showsValues_recordOf (hw : w.DistinctPositions) (hvalues : w.ValuesRead) :
    w.ShowsValues w.formulaCells fun e ↦ (w.recordOf e).value := by
  have hmem := fun e (he : e ∈ w.formulaCells) ↦ ((lists_formulaCells hw).mem e).mp he
  refine ⟨fun e he ↦ ?_, fun e he hearlier ↦ ?_, fun hempty hnames e he ↦ ?_⟩
  · obtain ⟨s, hs, -⟩ := hmem e he
    exact shows_value_recordOf hw hvalues hs
  · obtain ⟨s, hs, hcell, -⟩ := hmem e he
    obtain ⟨first, hfirst, hshows⟩ := shows_value_recordOf hw hvalues hs
    obtain rfl := Option.some.inj (hs.symm.trans (hfirst.eq hearlier))
    have hsheet := List.mem_of_getElem? hs
    obtain ⟨v, hvalue⟩ := hvalues s hsheet e.cell hcell
    exact ⟨v, hvalue, hshows.eq_display (hw s hsheet) hcell hvalue⟩
  · obtain ⟨s, hs, -⟩ := hmem e he
    exact titleAt_of_distinct hempty hnames hs

/-! ### Arranging a workbook -/

/-- The workbooks differ at most in the order in which their sheets list their cells. -/
def SameCells (w v : Workbook) : Prop := List.Forall₂ Sheet.SameCells w.sheets v.sheets

def arranged (w : Workbook) : Workbook := ⟨w.sheets.map Sheet.arranged⟩

theorem map_arranged_eq {sheets others : List Sheet}
    (h : List.Forall₂ Sheet.SameCells sheets others) (hsheets : ∀ s ∈ sheets, s.DistinctPositions) :
    (∀ t ∈ others, t.DistinctPositions) ∧
      others.map Sheet.arranged = sheets.map Sheet.arranged := by
  induction h with
  | nil => exact ⟨nofun, rfl⟩
  | cons hsame _ ih =>
    obtain ⟨hs, hrest⟩ := List.forall_mem_cons.mp hsheets
    obtain ⟨hothers, heq⟩ := ih hrest
    refine ⟨List.forall_mem_cons.mpr ⟨hsame.distinctPositions hs, hothers⟩, ?_⟩
    rw [List.map_cons, List.map_cons, Sheet.arranged_eq hs hsame, heq]

theorem titledSheets_arranged (w : Workbook) :
    w.arranged.titledSheets = w.titledSheets.map fun (title, s) ↦ (title, s.arranged) := by
  have hnames : w.arranged.sheetNames = w.sheetNames := by
    simp [sheetNames, arranged, Sheet.arranged]
  rw [titledSheets, hnames, arranged, List.zip_map_right]
  rfl

theorem distinctPositions_titled (hw : w.DistinctPositions) :
    ∀ titled ∈ w.titledSheets, titled.2.DistinctPositions := fun _ h ↦
  hw _ (List.of_mem_zip h).2

theorem valueAt_arranged {titled : List (String × Sheet)}
    (htitled : ∀ entry ∈ titled, entry.2.DistinctPositions) (title : String) (p : Position) :
    valueAt (titled.map fun (title, s) ↦ (title, s.arranged)) title p = valueAt titled title p := by
  induction titled with
  | nil => rfl
  | cons entry titled ih =>
    obtain ⟨hentry, hrest⟩ := List.forall_mem_cons.mp htitled
    have ih := ih hrest
    unfold valueAt at ih ⊢
    rw [List.map_cons, List.lookup_cons, List.lookup_cons]
    cases title == entry.1 with
    | true => exact Sheet.valueAt_arranged hentry p
    | false => exact ih

theorem records_arranged (hw : w.DistinctPositions) : w.arranged.records = w.records := by
  have htitled := distinctPositions_titled hw
  unfold records
  simp only [titledSheets_arranged, List.flatMap_map]
  refine List.flatMap_congr fun entry hentry ↦ ?_
  rw [sheetRecords, sheetRecords, Sheet.inOrder_arranged (htitled entry hentry)]
  have hrecord : record (w.titledSheets.map fun (title, s) ↦ (title, s.arranged)) entry.1 =
      record w.titledSheets entry.1 := by
    funext cell formula
    rw [record, record, valueAt_arranged htitled]
  rw [hrecord]

theorem faults_arranged (hw : w.DistinctPositions) : w.arranged.faults = w.faults := by
  unfold faults
  simp only [arranged, List.flatMap_map]
  refine congrArg₂ (· ++ ·) (List.flatMap_congr fun s hs ↦ ?_) (List.flatMap_congr fun s hs ↦ ?_)
  · rw [Sheet.faults_arranged (hw s hs)]
    rfl
  · exact Sheet.faults_arranged (hw s hs) _

/-- The order in which cells are listed does not matter to the records, nor to what spoils them. -/
theorem SameCells.records_faults {v : Workbook} (h : w.SameCells v) (hw : w.DistinctPositions) :
    v.records = w.records ∧ v.faults = w.faults := by
  obtain ⟨hv, hsheets⟩ := map_arranged_eq h hw
  have heq : v.arranged = w.arranged := congrArg Workbook.mk hsheets
  exact ⟨by rw [← records_arranged hv, heq, records_arranged hw],
    by rw [← faults_arranged hv, heq, faults_arranged hw]⟩

end Workbook

end FormulaAudit
