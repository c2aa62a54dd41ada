import FormulaAudit.Report.Narrative.Overview
import FormulaAudit.Report.Preview
import Mathlib.Algebra.GroupWithZero.Nat

/-!
Rows of Markdown tables. A pipe separates two cells of a row unless it is escaped, which it is behind
an odd number of backslashes; a line feed ends the row. A row that is put together from cells is one
line with as many cells exactly if no cell holds a line feed or a pipe that is not escaped
(`isRow_tableLine_iff`). Escaping the pipes of a formula turns this around: those that a backslash
escaped before separate cells, and no others do (`pipes_escapeMarks`).
-/

set_option autoImplicit false

namespace FormulaAudit.Report

variable {cs more : List Char} {cells : List String}

/-! ### Pipes and the backslashes in front of them -/

/-- How many backslashes stand directly in front of what follows a character. -/
def nextRun (run : Nat) (c : Char) : Nat := if c = '\\' then run + 1 else 0

/-- How many pipes stand behind an even number of backslashes, or an odd one; `run` of them stand in
front of the text. -/
def pipes (odd : Bool) (run : Nat) : List Char → Nat
  | [] => 0
  | c :: cs =>
    (if c = '|' ∧ (run % 2 = 1 ↔ odd = true) then 1 else 0) + pipes odd (nextRun run c) cs

/-- The pipes of a text that are not escaped. -/
def barePipes (text : String) : Nat := pipes false 0 text.toList

/-- The pieces of a text between the pipes that are not escaped. -/
def splitCells (run : Nat) : List Char → List (List Char)
  | [] => [[]]
  | c :: cs =>
    if c = '|' ∧ run % 2 = 0 then [] :: splitCells (nextRun run c) cs
    else (splitCells (nextRun run c) cs).modifyHead (c :: ·)

/-- The cells of a row, which stand between its outer pipes. -/
def cellsOf (line : String) : List String :=
  ((splitCells 0 line.toList).tail.dropLast).map String.ofList

theorem length_splitCells (run : Nat) (cs : List Char) :
    (splitCells run cs).length = pipes false run cs + 1 := by
  induction cs generalizing run with
  | nil => rfl
  | cons c cs ih =>
    rw [splitCells, pipes]
    by_cases hbare : c = '|' ∧ run % 2 = 0
    · have hcount : c = '|' ∧ (run % 2 = 1 ↔ false = true) := ⟨hbare.1, by simp [hbare.2]⟩
      rw [if_pos hbare, if_pos hcount, List.length_cons, ih, Nat.add_comm 1]
    · have hcount : ¬ (c = '|' ∧ (run % 2 = 1 ↔ false = true)) := by
        simpa [Nat.mod_two_ne_one] using hbare
      rw [if_neg hbare, if_neg hcount, List.length_modifyHead, ih, Nat.zero_add]

theorem length_cellsOf (line : String) : (cellsOf line).length = barePipes line - 1 := by
  simp [cellsOf, length_splitCells, barePipes]

theorem pipes_append (odd : Bool) (run : Nat) (cs more : List Char) :
    pipes odd run (cs ++ more) = pipes odd run cs + pipes odd (cs.foldl nextRun run) more := by
  induction cs generalizing run with
  | nil => rw [List.nil_append, pipes, Nat.zero_add, List.foldl_nil]
  | cons c cs ih => rw [List.cons_append, pipes, pipes, ih, List.foldl_cons, Nat.add_assoc]

/-- Anything but a backslash ends the run of backslashes in front of it. -/
theorem pipes_append_cons (odd : Bool) (run : Nat) (cs more : List Char) {c : Char}
    (hc : c ≠ '\\') (hpipe : c ≠ '|') :
    pipes odd run (cs ++ c :: more) = pipes odd run cs + pipes odd 0 more := by
  rw [pipes_append, pipes, if_neg (fun h ↦ hpipe h.1), nextRun, if_neg hc, Nat.zero_add]

theorem pipes_blank (run : Nat) (more : List Char) :
    pipes false run (' ' :: more) = pipes false 0 more := by
  rw [pipes, if_neg (by simp), nextRun, if_neg (by decide), Nat.zero_add]

theorem pipes_separator (more : List Char) :
    pipes false 0 ('|' :: more) = pipes false 0 more + 1 := by
  rw [pipes, if_pos (by simp), nextRun, if_neg (by decide), Nat.add_comm]

theorem pipes_of_not_mem (odd : Bool) (run : Nat) (hcs : '|' ∉ cs) : pipes odd run cs = 0 := by
  induction cs generalizing run with
  | nil => rfl
  | cons c cs ih =>
    obtain ⟨hc, hrest⟩ := not_or.mp (mt List.mem_cons.mpr hcs)
    rw [pipes, if_neg (fun h ↦ hc h.1.symm), ih _ hrest]

/-- A backslash that is put in front of each pipe takes the escaped ones for the others. -/
theorem pipes_escapeMarks (run : Nat) (cs : List Char) :
    pipes false run (escapeMarks cs) = pipes true run cs := by
  induction cs generalizing run with
  | nil => rfl
  | cons c cs ih =>
    by_cases hmark : isMark c = true
    · have hback := ne_backslash_of_isMark hmark
      have hparity : ((run + 1) % 2 = 1 ↔ false = true) ↔ (run % 2 = 1 ↔ true = true) := by
        simp only [Bool.false_eq_true, iff_false, iff_true]
        omega
      rw [escapeMarks_cons_of_isMark hmark, pipes, pipes, pipes, ih]
      simp only [nextRun, if_neg hback, if_true, hparity]
      simp
    · have hpipe : c ≠ '|' := by
        rintro rfl
        exact hmark (by decide)
      rw [escapeMarks_cons_of_not_isMark hmark, pipes, pipes, ih, if_neg (fun h ↦ hpipe h.1),
        if_neg (fun h ↦ hpipe h.1)]

/-! ### Rows -/

/-- The text can stand in a cell: it ends neither the line nor the cell. -/
def StaysInCell (text : String) : Prop := '\n' ∉ text.toList ∧ barePipes text = 0

/-- The text is one line, and a row of so many cells. -/
def IsRow (columns : Nat) (line : String) : Prop :=
  '\n' ∉ line.toList ∧ (cellsOf line).length = columns

theorem staysInCell_of_forall_mem {text : String} (h : ∀ c ∈ text.toList, c ≠ '\n' ∧ c ≠ '|') :
    StaysInCell text :=
  ⟨fun hmem ↦ (h _ hmem).1 rfl, pipes_of_not_mem false 0 fun hmem ↦ (h _ hmem).2 rfl⟩

/-- What separates two items is what stands behind the one and in front of the other. -/
theorem intercalate_eq_flatMap (front back : List Char) {items : List (List Char)}
    (hitems : items ≠ []) :
    front ++ (back ++ front).intercalate items ++ back =
      items.flatMap fun item ↦ front ++ item ++ back := by
  induction items with
  | nil => exact absurd rfl hitems
  | cons item items ih =>
    rw [List.flatMap_cons]
    cases items with
    | nil => rw [List.intercalate_singleton, List.flatMap_nil, List.append_nil]
    | cons next items =>
      rw [← ih (List.cons_ne_nil _ _), List.intercalate_cons_cons]
      simp only [List.append_assoc]

/-- Each line brings the line feed behind it. -/
theorem toList_lines {lines : List String} (hlines : lines ≠ []) :
    ("\n".intercalate lines ++ "\n").toList =
      lines.flatMap fun line ↦ line.toList ++ ['\n'] := by
  have hfeed : "\n".toList = ['\n'] := by decide
  have htexts : lines.map String.toList ≠ [] := mt List.map_eq_nil_iff.mp hlines
  have htext := intercalate_eq_flatMap [] ['\n'] htexts
  rw [String.toList_append, String.toList_intercalate, hfeed]
  simpa only [List.flatMap_map, List.nil_append, List.append_nil] using htext

/-- Each cell stands between blanks and brings the pipe behind it. -/
theorem toList_tableLine (hcells : cells ≠ []) :
    (tableLine cells).toList = '|' :: cells.flatMap fun cell ↦ ' ' :: cell.toList ++ [' ', '|'] := by
  have htexts : cells.map String.toList ≠ [] := mt List.map_eq_nil_iff.mp hcells
  have hinner := intercalate_eq_flatMap [' '] [' ', '|'] htexts
  rw [List.flatMap_map] at hinner
  rw [tableLine, String.toList_append, String.toList_append, String.toList_intercalate]
  exact congrArg ('|' :: ·) hinner

theorem barePipes_tableLine (hcells : cells ≠ []) :
    barePipes (tableLine cells) = cells.length + 1 + (cells.map barePipes).sum := by
  rw [barePipes, toList_tableLine hcells, pipes_separator]
  clear hcells
  induction cells with
  | nil => rfl
  | cons cell cells ih =>
    rw [List.flatMap_cons, List.cons_append, List.cons_append, pipes_blank, List.append_assoc,
      List.cons_append, pipes_append_cons false 0 _ _ (by decide) (by decide),
      List.singleton_append, pipes_separator, ih, List.map_cons, List.sum_cons, List.length_cons,
      ← barePipes]
    omega

theorem count_lineFeed_tableLine (hcells : cells ≠ []) :
    (tableLine cells).toList.count '\n' = (cells.map (·.toList.count '\n')).sum := by
  rw [toList_tableLine hcells, List.count_cons_of_ne (by decide), List.count_flatMap]
  exact congrArg List.sum (List.map_congr_left fun cell _ ↦ by simp)

theorem length_cellsOf_tableLine (hcells : cells ≠ []) :
    (cellsOf (tableLine cells)).length = cells.length + (cells.map barePipes).sum := by
  rw [length_cellsOf, barePipes_tableLine hcells]
  omega

/-- A row of cells is one only if each of them stays in its cell. -/
theorem isRow_tableLine_iff (hcells : cells ≠ []) :
    IsRow cells.length (tableLine cells) ↔ ∀ cell ∈ cells, StaysInCell cell := by
  have hsum {f : String → Nat} : (cells.map f).sum = 0 ↔ ∀ cell ∈ cells, f cell = 0 := by
    rw [List.sum_eq_zero_iff_forall_eq_nat, List.forall_mem_map]
  have hcount : (cellsOf (tableLine cells)).length = cells.length ↔
      ∀ cell ∈ cells, barePipes cell = 0 := by
    rw [length_cellsOf_tableLine hcells, ← hsum, Nat.add_eq_left]
  have hline : '\n' ∉ (tableLine cells).toList ↔ ∀ cell ∈ cells, '\n' ∉ cell.toList := by
    simp only [← List.count_eq_zero, count_lineFeed_tableLine hcells, hsum]
  rw [IsRow, hline, hcount]
  exact ⟨fun h cell hcell ↦ ⟨h.1 cell hcell, h.2 cell hcell⟩,
    fun h ↦ ⟨fun cell hcell ↦ (h cell hcell).1, fun cell hcell ↦ (h cell hcell).2⟩⟩

end FormulaAudit.Report
