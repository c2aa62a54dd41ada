import FormulaAudit.Workbook.Basic
import Mathlib.Data.List.Basic
import Mathlib.Data.List.Nodup

/-!
Sheets and the cells that they keep. Of several cells at one position the last one listed is kept
(`keeps_iff_mem`). Where positions are distinct, all cells are, and the order in which the sheet lists
them does not matter: arranged row by row, each row by column, the cells are the same list
(`arranged_eq`), and at each position there is the value of the one cell that is there, or none
(`shows_valueAt`).
-/

set_option autoImplicit false

namespace FormulaAudit

/-! ### Positions -/

namespace Position

/-- In a row above, or further to the left in the same row. -/
def Before (p q : Position) : Prop := p.row < q.row ∨ (p.row = q.row ∧ p.column < q.column)

theorem isBefore_iff (p q : Position) :
    p.isBefore q = true ↔ p.row < q.row ∨ (p.row = q.row ∧ p.column ≤ q.column) := by
  simp [isBefore]

theorem before_of_ne {p q : Position} (h : p.isBefore q = true) (hne : p ≠ q) : p.Before q := by
  rcases (isBefore_iff p q).mp h with hrow | ⟨hrow, hcolumn⟩
  · exact .inl hrow
  · refine .inr ⟨hrow, Nat.lt_of_le_of_ne hcolumn fun heq ↦ hne ?_⟩
    cases p
    cases q
    simp_all

theorem Before.asymm {p q : Position} (hpq : p.Before q) : ¬ q.Before p := by
  unfold Before at *
  omega

end Position

/-- What is not looked at is no fault. -/
theorem Cell.fault?_eq_none {cell : Cell} (looksAtValue : Bool) (h : cell.fault? true = none) :
    cell.fault? looksAtValue = none := by
  cases looksAtValue with
  | true => exact h
  | false =>
    unfold fault? at h ⊢
    split at h
    case isTrue => cases h
    case isFalse hcolumn => rw [if_neg hcolumn]; rfl

/-- A cell that is read completely is no fault if its column may be there and its value is. -/
theorem Cell.fault?_eq_none_iff {cell : Cell} : cell.fault? true = none ↔
    cell.position.column ≤ Position.lastColumn ∧ ∃ v, cell.value = .ok v := by
  unfold fault?
  by_cases hcolumn : Position.lastColumn < cell.position.column
  · rw [if_pos hcolumn]
    exact iff_of_false nofun fun h ↦ absurd hcolumn (Nat.not_lt.mpr h.1)
  · rw [if_neg hcolumn, and_iff_right (Nat.not_lt.mp hcolumn)]
    cases cell.value with
    | ok v => exact iff_of_true rfl ⟨v, rfl⟩
    | error f => exact iff_of_false nofun nofun

/-- A fault that is not about the stored value says no more than that the cell is malformed. -/
theorem Cell.eq_malformed_or_of_fault? {cell : Cell} {looksAtValue : Bool}
    {fault : CellValue.Fault} (h : cell.fault? looksAtValue = some fault) :
    fault = .malformed ∨ cell.value = .error fault := by
  unfold fault? at h
  by_cases hcolumn : Position.lastColumn < cell.position.column
  · rw [if_pos hcolumn] at h
    exact Or.inl (Option.some.inj h).symm
  · rw [if_neg hcolumn] at h
    cases looksAtValue with
    | false => cases h
    | true =>
      cases hvalue : cell.value with
      | ok v => simp [hvalue] at h
      | error f =>
        simp only [hvalue, Bool.not_true, Bool.false_eq_true, if_false, Option.some.injEq] at h
        exact Or.inr (congrArg Except.error h)

namespace Sheet

variable {s t : Sheet} {cells : List Cell} {cell : Cell} {p : Position}

/-- No two cells have one position. -/
def DistinctPositions (s : Sheet) : Prop := (s.cells.map (·.position)).Nodup

instance (s : Sheet) : Decidable s.DistinctPositions :=
  inferInstanceAs (Decidable (s.cells.map (·.position)).Nodup)

theorem latest_of_nodup (h : (cells.map (·.position)).Nodup) : latest cells = cells := by
  induction cells with
  | nil => rfl
  | cons cell cells ih =>
    obtain ⟨hfresh, hrest⟩ := List.nodup_cons.mp h
    have hnone : ¬ cells.any (·.position = cell.position) = true := fun hany ↦ by
      obtain ⟨other, hother, heq⟩ := List.any_eq_true.mp hany
      exact hfresh (List.mem_map.mpr ⟨other, hother, of_decide_eq_true heq⟩)
    rw [latest, if_neg hnone, ih hrest]

/-- The sheet lists the cell, and no later cell at its position. -/
def Keeps (s : Sheet) (cell : Cell) : Prop :=
  ∃ before after, s.cells = before ++ cell :: after ∧
    ∀ later ∈ after, later.position ≠ cell.position

/-- A cell in front is kept unless a later one has its position. -/
theorem mem_latest_cons {first : Cell} : cell ∈ latest (first :: cells) ↔
    (cell = first ∧ ∀ later ∈ cells, later.position ≠ first.position) ∨ cell ∈ latest cells := by
  rw [latest]
  by_cases hlater : cells.any (·.position = first.position) = true
  · obtain ⟨later, hmem, heq⟩ := List.any_eq_true.mp hlater
    rw [if_pos hlater]
    refine ⟨Or.inr, fun h ↦ h.resolve_left fun ⟨_, hnone⟩ ↦ ?_⟩
    exact hnone later hmem (of_decide_eq_true heq)
  · have hnone : ∀ later ∈ cells, later.position ≠ first.position := by simpa using hlater
    rw [if_neg hlater, List.mem_cons, and_iff_left hnone]

theorem mem_latest : cell ∈ latest cells ↔ ∃ before after, cells = before ++ cell :: after ∧
    ∀ later ∈ after, later.position ≠ cell.position := by
  induction cells with
  | nil => simp [latest]
  | cons first cells ih =>
    rw [mem_latest_cons, ih]
    constructor
    · rintro (⟨rfl, hnone⟩ | ⟨before, after, rfl, hnone⟩)
      · exact ⟨[], cells, rfl, hnone⟩
      · exact ⟨first :: before, after, rfl, hnone⟩
    · rintro ⟨before, after, hcells, hnone⟩
      rcases List.cons_eq_append_iff.mp hcells with ⟨rfl, hhead⟩ | ⟨rest, rfl, hrest⟩
      · obtain ⟨rfl, rfl⟩ := List.cons.inj hhead
        exact Or.inl ⟨rfl, hnone⟩
      · exact Or.inr ⟨rest, after, hrest, hnone⟩

theorem nodup_latest (cells : List Cell) : ((latest cells).map (·.position)).Nodup := by
  induction cells with
  | nil => exact List.nodup_nil
  | cons first cells ih =>
    rw [latest]
    by_cases hlater : cells.any (·.position = first.position) = true
    · rwa [if_pos hlater]
    · rw [if_neg hlater, List.map_cons, List.nodup_cons]
      refine ⟨fun hmem ↦ hlater ?_, ih⟩
      obtain ⟨other, hother, heq⟩ := List.mem_map.mp hmem
      obtain ⟨before, after, rfl, -⟩ := mem_latest.mp hother
      exact List.any_eq_true.mpr ⟨other, by simp, decide_eq_true heq⟩

/-! ### The cells in order -/

theorem sorted_perm (cells : List Cell) : (sorted cells).Perm cells := List.mergeSort_perm _ _

theorem pairwise_sorted (h : (cells.map (·.position)).Nodup) :
    (sorted cells).Pairwise fun a b ↦ a.position.Before b.position := by
  have hle : (sorted cells).Pairwise fun a b ↦ a.position.isBefore b.position = true := by
    refine List.pairwise_mergeSort ?_ ?_ cells
    · intro a b c hab hbc
      rw [Position.isBefore_iff] at *
      omega
    · intro a b
      rw [Bool.or_eq_true, Position.isBefore_iff, Position.isBefore_iff]
      omega
  have hne : (sorted cells).Pairwise fun a b ↦ a.position ≠ b.position :=
    List.pairwise_map.mp (((sorted_perm cells).map _).nodup_iff.mpr h)
  exact hle.imp₂ (fun _ _ ↦ Position.before_of_ne) hne

theorem sorted_eq_of_perm {others : List Cell} (h : (cells.map (·.position)).Nodup)
    (hperm : others.Perm cells) : sorted others = sorted cells := by
  have hothers : (others.map (·.position)).Nodup := (hperm.map _).nodup_iff.mpr h
  refine List.Perm.eq_of_pairwise (fun a b _ _ hab hba ↦ absurd hba hab.asymm)
    (pairwise_sorted hothers) (pairwise_sorted h) ?_
  exact (sorted_perm others).trans (hperm.trans (sorted_perm cells).symm)

theorem inOrder_eq (hs : s.DistinctPositions) : s.inOrder = sorted s.cells := by
  rw [inOrder, latest_of_nodup hs]

theorem mem_inOrder : cell ∈ s.inOrder ↔ s.Keeps cell :=
  (sorted_perm (latest s.cells)).mem_iff.trans mem_latest

theorem pairwise_inOrder (s : Sheet) :
    s.inOrder.Pairwise fun a b ↦ a.position.Before b.position :=
  pairwise_sorted (nodup_latest s.cells)

/-- Where positions are distinct, every cell is kept. -/
theorem keeps_iff_mem (hs : s.DistinctPositions) : s.Keeps cell ↔ cell ∈ s.cells := by
  rw [← mem_inOrder, inOrder_eq hs]
  exact (sorted_perm s.cells).mem_iff

/-! ### The value at a position -/

/-- What a sheet shows at a position: the value that its cell there keeps, if it has one there. -/
inductive Shows (s : Sheet) (p : Position) : String → Prop where
  | kept {cell : Cell} {v : CellValue} (hcell : cell ∈ s.cells) (hposition : cell.position = p)
      (hvalue : cell.value = .ok v) : Shows s p v.display
  | nothing (hnone : ∀ cell ∈ s.cells, cell.position ≠ p) : Shows s p ""

theorem valueAt_of_mem (hs : s.DistinctPositions) (hcell : cell ∈ s.cells) :
    s.valueAt cell.position = cell.valueOrNone := by
  rw [valueAt, List.findRev?_eq_find?_reverse]
  cases hfind : s.cells.reverse.find? (·.position = cell.position) with
  | none =>
    have hnot := List.find?_eq_none.mp hfind cell (List.mem_reverse.mpr hcell)
    exact absurd (decide_eq_true rfl) hnot
  | some other =>
    have hposition : other.position = cell.position := by simpa using List.find?_some hfind
    have hother : other ∈ s.cells := List.mem_reverse.mp (List.mem_of_find?_eq_some hfind)
    rw [List.inj_on_of_nodup_map hs hother hcell hposition]
    rfl

theorem valueAt_of_forall_ne (hnone : ∀ cell ∈ s.cells, cell.position ≠ p) :
    s.valueAt p = .none := by
  have hfind : s.cells.reverse.find? (·.position = p) = none :=
    List.find?_eq_none.mpr fun cell hcell ↦ by simpa using hnone cell (List.mem_reverse.mp hcell)
  rw [valueAt, List.findRev?_eq_find?_reverse, hfind]
  rfl

theorem valueOrNone_eq {v : CellValue} (hvalue : cell.value = .ok v) : cell.valueOrNone = v := by
  rw [Cell.valueOrNone, hvalue]
  rfl

theorem shows_valueAt (hs : s.DistinctPositions)
    (hvalues : ∀ cell ∈ s.cells, ∃ v, cell.value = .ok v) (p : Position) :
    s.Shows p (s.valueAt p).display := by
  by_cases hsome : ∃ cell ∈ s.cells, cell.position = p
  · obtain ⟨cell, hcell, rfl⟩ := hsome
    obtain ⟨v, hvalue⟩ := hvalues cell hcell
    rw [valueAt_of_mem hs hcell, valueOrNone_eq hvalue]
    exact .kept hcell rfl hvalue
  · have hnone : ∀ cell ∈ s.cells, cell.position ≠ p := by simpa using hsome
    rw [valueAt_of_forall_ne hnone]
    exact .nothing hnone

/-- Where there is a cell, its value is shown. -/
theorem Shows.eq_display {v : CellValue} {text : String} (h : s.Shows cell.position text)
    (hs : s.DistinctPositions) (hcell : cell ∈ s.cells) (hvalue : cell.value = .ok v) :
    text = v.display := by
  cases h with
  | kept hother hposition hkept =>
    rw [List.inj_on_of_nodup_map hs hother hcell hposition, hvalue] at hkept
    rw [Except.ok.inj hkept]
  | nothing hnone => exact absurd rfl (hnone cell hcell)

/-! ### Faults -/

theorem faults_eq_nil_iff {looksAtValue : Cell → Bool} : s.faults looksAtValue = [] ↔
    ∀ cell ∈ s.cells, cell.fault? (looksAtValue cell) = none := by
  rw [faults, List.filterMap_eq_nil_iff]
  simp only [(sorted_perm s.cells).mem_iff]

/-! ### Arranging a sheet -/

/-- The sheet with its cells row by row, each row by column. -/
def arranged (s : Sheet) : Sheet := { s with cells := sorted s.cells }

/-- The sheets differ at most in the order in which they list their cells. -/
def SameCells (s t : Sheet) : Prop := t.name = s.name ∧ t.cells.Perm s.cells

theorem arranged_eq (hs : s.DistinctPositions) (h : s.SameCells t) : t.arranged = s.arranged := by
  rw [arranged, arranged, sorted_eq_of_perm hs h.2, h.1]

theorem SameCells.distinctPositions (h : s.SameCells t) (hs : s.DistinctPositions) :
    t.DistinctPositions :=
  (h.2.map _).nodup_iff.mpr hs

theorem sameCells_arranged (s : Sheet) : s.SameCells s.arranged := ⟨rfl, sorted_perm s.cells⟩

theorem inOrder_arranged (hs : s.DistinctPositions) : s.arranged.inOrder = s.inOrder := by
  rw [inOrder_eq hs, inOrder_eq ((sameCells_arranged s).distinctPositions hs)]
  exact sorted_eq_of_perm hs (sorted_perm s.cells)

theorem valueAt_arranged (hs : s.DistinctPositions) (p : Position) :
    s.arranged.valueAt p = s.valueAt p := by
  have hmem : ∀ {cell : Cell}, cell ∈ s.arranged.cells ↔ cell ∈ s.cells :=
    (sorted_perm s.cells).mem_iff
  by_cases hsome : ∃ cell ∈ s.cells, cell.position = p
  · obtain ⟨cell, hcell, rfl⟩ := hsome
    rw [valueAt_of_mem hs hcell,
      valueAt_of_mem ((sameCells_arranged s).distinctPositions hs) (hmem.mpr hcell)]
  · have hnone : ∀ cell ∈ s.cells, cell.position ≠ p := by simpa using hsome
    rw [valueAt_of_forall_ne hnone, valueAt_of_forall_ne fun cell hcell ↦ hnone cell (hmem.mp hcell)]

theorem faults_arranged (hs : s.DistinctPositions) (looksAtValue : Cell → Bool) :
    s.arranged.faults looksAtValue = s.faults looksAtValue := by
  rw [faults, faults, show sorted s.arranged.cells = sorted s.cells from
    sorted_eq_of_perm hs (sorted_perm s.cells)]

end Sheet

end FormulaAudit
