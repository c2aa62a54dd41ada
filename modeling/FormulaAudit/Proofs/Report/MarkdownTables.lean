import FormulaAudit.Proofs.Number.Digits
import FormulaAudit.Proofs.Report.Cells
import FormulaAudit.Report.Narrative
import FormulaAudit.Tally
import Mathlib.Data.List.Infix

/-!
The tables of the narrative report that show texts of the workbook: the examples of each category
and the sheets. Which texts break a row is known exactly: a sheet or a cell with a line feed or a pipe
that is not escaped, and a formula with a line feed or a pipe that is escaped, as far as the formula
is shown (`soundTables_iff`). A sheet may well have a pipe in its name (`rows_broken_by_texts`).
-/

set_option autoImplicit false

namespace FormulaAudit

namespace Report

/-! ### Formulas in a cell -/

theorem count_lineFeed_escapeMarks (cs : List Char) :
    (escapeMarks cs).count '\n' = cs.count '\n' := by
  induction cs with
  | nil => rfl
  | cons c cs ih =>
    by_cases hmark : isMark c = true
    · have hline : c ≠ '\n' := by
        rintro rfl
        exact absurd hmark (by decide)
      rw [escapeMarks_cons_of_isMark hmark, List.count_cons_of_ne (by decide),
        List.count_cons_of_ne hline, List.count_cons_of_ne hline, ih]
    · rw [escapeMarks_cons_of_not_isMark hmark, List.count_cons, List.count_cons, ih]

/-- A formula as a table shows it. -/
def shownFormula (limit : Int) (r : Classified) : String :=
  "`" ++ preview limit r.record.formula ++ "`"

theorem toList_shownFormula (limit : Int) (r : Classified) :
    (shownFormula limit r).toList =
      '\x60' :: (escapeMarks (cut limit r.record.formula.toList) ++ ['\x60']) := by
  simp only [shownFormula, preview, String.toList_append, String.toList_ofList]
  rfl

theorem barePipes_shownFormula (limit : Int) (r : Classified) :
    barePipes (shownFormula limit r) = pipes true 0 (cut limit r.record.formula.toList) := by
  rw [barePipes, toList_shownFormula, pipes, if_neg (by simp), nextRun, if_neg (by decide),
    pipes_append_cons false 0 _ _ (by decide) (by decide), pipes_escapeMarks, Nat.zero_add]
  rfl

theorem count_lineFeed_shownFormula (limit : Int) (r : Classified) :
    (shownFormula limit r).toList.count '\n' = (cut limit r.record.formula.toList).count '\n' := by
  rw [toList_shownFormula, List.count_cons_of_ne (by decide), List.count_append,
    count_lineFeed_escapeMarks, List.count_cons_of_ne (by decide), List.count_nil, Nat.add_zero]

theorem staysInCell_shownFormula_iff {limit : Int} {r : Classified} :
    StaysInCell (shownFormula limit r) ↔ '\n' ∉ cut limit r.record.formula.toList ∧
      pipes true 0 (cut limit r.record.formula.toList) = 0 := by
  rw [StaysInCell, barePipes_shownFormula, ← List.count_eq_zero, count_lineFeed_shownFormula,
    List.count_eq_zero]

/-! ### Numbers and labels in a cell -/

theorem ne_of_isNumberCharacter {c : Char} (hc : IsNumberCharacter c) : c ≠ '\n' ∧ c ≠ '|' := by
  constructor
  · rintro rfl
    exact absurd hc (by decide)
  · rintro rfl
    exact absurd hc (by decide)

theorem staysInCell_toString (n : Nat) : StaysInCell (toString n) :=
  staysInCell_of_forall_mem fun _ hc ↦
    ne_of_isNumberCharacter (isNumberCharacter_of_mem_toString hc)

theorem staysInCell_shareText (share : Binary64) : StaysInCell (shareText share) := by
  refine staysInCell_of_forall_mem fun c hc ↦ ?_
  rw [shareText, String.toList_append, List.mem_append] at hc
  rcases hc with hnumber | hpercent
  · exact ne_of_isNumberCharacter (Binary64.isNumberCharacter_of_mem_fixedPlaces hnumber)
  · rw [List.mem_singleton.mp hpercent]
    decide

theorem staysInCell_categoryLabel (category : Category) :
    StaysInCell (categoryMark category ++ " " ++ category.label) := by
  unfold StaysInCell
  cases category <;> decide

/-! ### Rows from the workbook -/

theorem exampleLine_eq (limit : Int) (r : Classified) :
    exampleLine limit r = tableLine [r.record.sheet, r.record.cell, shownFormula limit r] := rfl

theorem count_lineFeed_exampleLine (limit : Int) (r : Classified) :
    (exampleLine limit r).toList.count '\n' = r.record.sheet.toList.count '\n' +
      r.record.cell.toList.count '\n' + (cut limit r.record.formula.toList).count '\n' := by
  rw [exampleLine_eq, count_lineFeed_tableLine (List.cons_ne_nil _ _)]
  simp only [List.map_cons, List.map_nil, List.sum_cons, List.sum_nil, Nat.add_zero,
    count_lineFeed_shownFormula, Nat.add_assoc]

theorem length_cellsOf_exampleLine (limit : Int) (r : Classified) :
    (cellsOf (exampleLine limit r)).length = 3 + barePipes r.record.sheet +
      barePipes r.record.cell + pipes true 0 (cut limit r.record.formula.toList) := by
  rw [exampleLine_eq, length_cellsOf_tableLine (List.cons_ne_nil _ _)]
  simp only [List.map_cons, List.map_nil, List.sum_cons, List.sum_nil, Nat.add_zero,
    barePipes_shownFormula, List.length_cons, List.length_nil, Nat.zero_add, Nat.add_assoc,
    Nat.reduceAdd]

theorem isRow_exampleLine_iff {limit : Int} {r : Classified} :
    IsRow 3 (exampleLine limit r) ↔ StaysInCell r.record.sheet ∧ StaysInCell r.record.cell ∧
      '\n' ∉ cut limit r.record.formula.toList ∧
      pipes true 0 (cut limit r.record.formula.toList) = 0 := by
  rw [exampleLine_eq]
  refine (isRow_tableLine_iff (List.cons_ne_nil _ _)).trans ?_
  simp only [List.forall_mem_cons, List.not_mem_nil, false_imp_iff, implies_true, and_true,
    staysInCell_shownFormula_iff]

theorem sheetRow_eq (c : Corpus) (group : SheetGroup) :
    sheetRow c group = tableLine
      [group.1, toString group.2.length, shareText (percentOf group.2.length c.total),
        categoryMark (c.primaryCategory group.1) ++ " " ++ (c.primaryCategory group.1).label] := rfl

theorem count_lineFeed_sheetRow (c : Corpus) (group : SheetGroup) :
    (sheetRow c group).toList.count '\n' = group.1.toList.count '\n' := by
  rw [sheetRow_eq, count_lineFeed_tableLine (List.cons_ne_nil _ _)]
  simp only [List.map_cons, List.map_nil, List.sum_cons, List.sum_nil, Nat.add_zero,
    List.count_eq_zero.mpr (staysInCell_toString _).1, List.count_eq_zero.mpr
      (staysInCell_shareText _).1, List.count_eq_zero.mpr (staysInCell_categoryLabel _).1]

theorem length_cellsOf_sheetRow (c : Corpus) (group : SheetGroup) :
    (cellsOf (sheetRow c group)).length = 4 + barePipes group.1 := by
  rw [sheetRow_eq, length_cellsOf_tableLine (List.cons_ne_nil _ _)]
  simp only [List.map_cons, List.map_nil, List.sum_cons, List.sum_nil, Nat.add_zero,
    (staysInCell_toString _).2, (staysInCell_shareText _).2, (staysInCell_categoryLabel _).2,
    List.length_cons, List.length_nil, Nat.zero_add, Nat.reduceAdd]

theorem isRow_sheetRow_iff {c : Corpus} {group : SheetGroup} :
    IsRow 4 (sheetRow c group) ↔ StaysInCell group.1 := by
  rw [sheetRow_eq]
  refine (isRow_tableLine_iff (List.cons_ne_nil _ _)).trans ?_
  simp only [List.forall_mem_cons, List.not_mem_nil, false_imp_iff, implies_true, and_true,
    staysInCell_toString, staysInCell_shareText, staysInCell_categoryLabel]

/-- What a report has for each category is among what it has for all of them. -/
theorem isInfix_flatMap_categories (part : Category → List String) (category : Category) :
    part category <:+: Category.all.flatMap part :=
  List.flatMap_def ▸ List.infix_of_mem_flatten (List.mem_map_of_mem (Category.mem_all category))

end Report

namespace Corpus

open Report

/-- The results of a category that the narrative report shows as examples. -/
def sampled (c : Corpus) (settings : Settings) (category : Category) : List Classified :=
  excerpt settings.sampleLimit (c.byCategory category)

/-- Each example and each sheet has one line in its table, with a cell for each column. -/
def HasSoundTables (c : Corpus) (settings : Settings) : Prop :=
  (∀ category, ∀ r ∈ c.sampled settings category, IsRow 3 (exampleLine settings.previewLimit r)) ∧
    ∀ group ∈ c.sheetsBySize, IsRow 4 (sheetRow c group)

variable (c : Corpus) (settings : Settings) (name : String) (generated : Moment)

/-- The headings of the table of examples and the line under them. -/
def exampleHeadings : List String := ["| Sheet | Cell | Formula |", "|-------|------|---------|"]

/-- The headings of the table of sheets and the line under them. -/
def sheetHeadings : List String :=
  ["| Worksheet | Formula Count | Percentage | Primary Complexity |",
    "|-----------|---------------|------------|-------------------|"]

example : exampleHeadings.map (fun line ↦ (cellsOf line).length) = [3, 3] := by
  decide +kernel

example : sheetHeadings.map (fun line ↦ (cellsOf line).length) = [4, 4] := by
  decide +kernel

theorem categoryLines_isInfix (category : Category) :
    categoryLines settings c category <:+: narrativeLines settings c name generated := by
  have hcategory : categoryLines settings c category <:+:
      Category.all.flatMap (categoryLines settings c) :=
    isInfix_flatMap_categories (categoryLines settings c) category
  have hcategories : categoriesLines settings c <:+: narrativeLines settings c name generated :=
    ⟨headingLines name generated ++ overviewLines c,
      sheetsLines c ++ (functionsLines c ++ (migrationLines c ++ appendixLines settings c generated)),
      by simp only [narrativeLines, List.append_assoc]⟩
  exact hcategory.trans ((List.infix_append _ _ _).trans hcategories)

/-- The examples of a category stand under their headings. -/
theorem examples_isInfix (category : Category) :
    exampleHeadings ++ (c.sampled settings category).map (exampleLine settings.previewLimit) <:+:
      narrativeLines settings c name generated := by
  refine List.IsInfix.trans (List.IsPrefix.isInfix ⟨((leftOut settings.sampleLimit
    (c.byCategory category).length).map exampleNote).toList ++ [""], ?_⟩)
    ((List.drop_suffix 12 _).isInfix.trans (categoryLines_isInfix c settings name generated category))
  cases category <;> simp [categoryLines, exampleLines, exampleHeadings, sampled, characteristics]

/-- The sheets stand under their headings. -/
theorem sheets_isInfix :
    sheetHeadings ++ c.sheetsBySize.map (sheetRow c) <:+:
      narrativeLines settings c name generated := by
  have hsheets : sheetsLines c <:+: narrativeLines settings c name generated :=
    ⟨headingLines name generated ++ (overviewLines c ++ categoriesLines settings c),
      functionsLines c ++ (migrationLines c ++ appendixLines settings c generated),
      by simp only [narrativeLines, List.append_assoc]⟩
  obtain ⟨rest, hrest⟩ : ∃ rest, sheetHeadings ++ c.sheetsBySize.map (sheetRow c) ++ rest =
      (sheetsLines c).drop 4 := by
    simp only [sheetsLines, List.append_assoc]
    exact ⟨_, rfl⟩
  exact (List.IsPrefix.isInfix ⟨rest, hrest⟩).trans ((List.drop_suffix 4 _).isInfix.trans hsheets)

theorem narrativeLines_ne_nil : narrativeLines settings c name generated ≠ [] := by
  simp only [narrativeLines, headingLines, List.cons_append]
  exact List.cons_ne_nil _ _

/-- The report has each of its lines and a line feed behind it. -/
theorem toList_narrativeReport :
    (c.narrativeReport settings name generated).toList =
      (narrativeLines settings c name generated).flatMap fun line ↦ line.toList ++ ['\n'] :=
  toList_lines (c.narrativeLines_ne_nil settings name generated)

theorem mem_sheetsBySize {group : SheetGroup} : group ∈ c.sheetsBySize ↔ group ∈ c.bySheet :=
  List.mem_mergeSort

/-- The lines stand in the narrative report one below the other. -/
def Shows (lines : List String) : Prop :=
  lines.flatMap (fun line ↦ line.toList ++ ['\n']) <:+:
    (c.narrativeReport settings name generated).toList

/-- Both tables stand in the report, with one entry for each example and each sheet. How many lines
and cells an entry has is known from the texts in it; it is one row exactly if the sheet and the cell
stay in their cells and the formula, as far as it is shown, has no line feed and no escaped pipe. -/
theorem soundTables_iff :
    (∀ category, c.Shows settings name generated (exampleHeadings ++
      (c.sampled settings category).map (exampleLine settings.previewLimit))) ∧
    c.Shows settings name generated (sheetHeadings ++ c.sheetsBySize.map (sheetRow c)) ∧
    (∀ r : Classified,
      (exampleLine settings.previewLimit r).toList.count '\n' =
        r.record.sheet.toList.count '\n' + r.record.cell.toList.count '\n' +
          (cut settings.previewLimit r.record.formula.toList).count '\n' ∧
      (cellsOf (exampleLine settings.previewLimit r)).length =
        3 + barePipes r.record.sheet + barePipes r.record.cell +
          pipes true 0 (cut settings.previewLimit r.record.formula.toList)) ∧
    (∀ group : SheetGroup,
      (sheetRow c group).toList.count '\n' = group.1.toList.count '\n' ∧
      (cellsOf (sheetRow c group)).length = 4 + barePipes group.1) ∧
    (c.HasSoundTables settings ↔
      (∀ category, ∀ r ∈ c.sampled settings category,
        StaysInCell r.record.sheet ∧ StaysInCell r.record.cell ∧
          '\n' ∉ cut settings.previewLimit r.record.formula.toList ∧
          pipes true 0 (cut settings.previewLimit r.record.formula.toList) = 0) ∧
      ∀ group ∈ c.bySheet, StaysInCell group.1) := by
  refine ⟨fun category ↦ ?examples, ?sheets,
    fun r ↦ ⟨count_lineFeed_exampleLine _ r, length_cellsOf_exampleLine _ r⟩,
    fun group ↦ ⟨count_lineFeed_sheetRow c group, length_cellsOf_sheetRow c group⟩, ?sound⟩
  case examples =>
    rw [Shows, toList_narrativeReport]
    exact (c.examples_isInfix settings name generated category).flatMap _
  case sheets =>
    rw [Shows, toList_narrativeReport]
    exact (c.sheets_isInfix settings name generated).flatMap _
  case sound =>
    simp only [HasSoundTables, isRow_exampleLine_iff, isRow_sheetRow_iff, mem_sheetsBySize]

/-- A sheet with a pipe in its name, a formula over two lines and one with an escaped pipe. -/
def breakingTexts : Corpus :=
  Tally.aggregate .standard
    [{ sheet := "P|L", cell := "A1", formula := "B1" },
      { sheet := "S", cell := "A1", formula := "\"x\ny\"&B1" },
      { sheet := "S", cell := "A2", formula := "\"\\|\"&B1" }]

/-- The pipe in the name makes a fourth cell of an example and a fifth of a sheet, the line feed a
second line, and the escaped pipe, with its backslash escaped by another, a fourth cell. -/
theorem rows_broken_by_texts :
    (breakingTexts.sampled .standard .simple).map (exampleLine Settings.standard.previewLimit) =
        ["| P|L | A1 | `B1` |", "| S | A1 | `\"x\ny\"&B1` |", "| S | A2 | `\"\\\\|\"&B1` |"] ∧
      (breakingTexts.sampled .standard .simple).map (fun r ↦
        (cellsOf (exampleLine Settings.standard.previewLimit r)).length) = [4, 3, 4] ∧
      breakingTexts.bySheet.map (fun group ↦
        (cellsOf (sheetRow breakingTexts group)).length) = [5, 4] ∧
      ¬ breakingTexts.HasSoundTables .standard := by
  have hcells : (breakingTexts.sampled .standard .simple).map (fun r ↦
      (cellsOf (exampleLine Settings.standard.previewLimit r)).length) = [4, 3, 4] := by
    simp only [length_cellsOf_exampleLine]
    decide +kernel
  have hsheets : breakingTexts.bySheet.map (fun group ↦
      (cellsOf (sheetRow breakingTexts group)).length) = [5, 4] := by
    simp only [length_cellsOf_sheetRow]
    decide +kernel
  refine ⟨by decide +kernel, hcells, hsheets, fun hsound ↦ ?_⟩
  have hfour : 4 ∈ (breakingTexts.sampled .standard .simple).map (fun r ↦
      (cellsOf (exampleLine Settings.standard.previewLimit r)).length) := by
    rw [hcells]
    exact List.mem_cons_self
  obtain ⟨r, hr, hlength⟩ := List.mem_map.mp hfour
  exact absurd ((hsound.1 .simple r hr).2.symm.trans hlength) (by decide)

end Corpus

end FormulaAudit
