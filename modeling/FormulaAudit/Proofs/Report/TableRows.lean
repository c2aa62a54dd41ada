import FormulaAudit.Proofs.Csv.LineEnd
import FormulaAudit.Proofs.Number.Digits
import FormulaAudit.Report.Table
import FormulaAudit.Tally

/-!
The rows of the table report for readers that end a row at every kind of line end. A sheet, a cell
or a formula with a carriage return in it and with nothing for which it is quoted breaks its row;
apart from that each result has one record (`keepsRows_table_iff`). A formula with such a line end
is enough to add a record (`row_broken_by_return`).
-/

set_option autoImplicit false

namespace FormulaAudit

namespace Csv

theorem bareReturns_of_not_mem {field : String} (h : '\r' ∉ field.toList) :
    bareReturns field = 0 := bareReturns_eq_zero_iff.mpr fun hreturn ↦ absurd hreturn h

theorem bareReturns_toString (n : ℤ) : bareReturns (toString n) = 0 :=
  bareReturns_of_not_mem fun h ↦ absurd (isNumberCharacter_of_mem_toString_int h) (by decide)

theorem bareReturns_categoryName (category : Category) : bareReturns category.name = 0 := by
  cases category <;> decide

end Csv

namespace Classified

/-- The carriage returns in the row of a result that stand outside quotes. -/
def bareReturns (r : Classified) : ℕ :=
  Csv.bareReturns r.record.sheet + Csv.bareReturns r.record.cell + Csv.bareReturns r.record.formula

theorem sum_bareReturns_tableRow (r : Classified) :
    (r.tableRow.map Csv.bareReturns).sum = r.bareReturns := by
  simp only [tableRow, List.map_cons, List.map_nil, List.sum_cons, List.sum_nil,
    Csv.bareReturns_categoryName, Csv.bareReturns_toString, bareReturns, Nat.add_zero, Nat.add_assoc]

end Classified

namespace Corpus

theorem hasFirmEnd_of_mem_table (c : Corpus) : ∀ row ∈ c.table, Csv.HasFirmEnd row := by
  intro row hrow
  rcases List.mem_cons.mp hrow with rfl | hrow
  · exact ⟨List.cons_ne_nil _ _, by decide⟩
  · obtain ⟨r, -, rfl⟩ := List.mem_map.mp hrow
    have hlast : r.tableRow.getLast? = some (toString r.features.functionCount) := rfl
    refine ⟨List.cons_ne_nil _ _, fun field hfield ↦ ?_⟩
    rw [hlast, Option.mem_some_iff] at hfield
    rw [← hfield, Csv.bareReturns_toString]

theorem sum_bareReturns_tableHeadings : (tableHeadings.map Csv.bareReturns).sum = 0 := by decide

theorem sum_bareReturns_table (c : Corpus) :
    (c.table.flatten.map Csv.bareReturns).sum = (c.results.map (·.bareReturns)).sum := by
  rw [table, List.flatten_cons, List.map_append, List.sum_append, sum_bareReturns_tableHeadings,
    Nat.zero_add]
  induction c.results with
  | nil => rfl
  | cons r results ih =>
    rw [List.map_cons, List.flatten_cons, List.map_append, List.sum_append, ih,
      r.sum_bareReturns_tableRow, List.map_cons, List.sum_cons]

/-- A common reader finds one record for the headings and one for each result, and one more for each
carriage return outside quotes; so the line ends keep the rows whole exactly if each text with a
carriage return in it is quoted for something else. -/
theorem keepsRows_table_iff (c : Corpus) :
    Csv.lineEnds c.tableReport =
        '\n' :: c.results.flatMap (fun r ↦ List.replicate r.bareReturns '\r' ++ ['\n']) ∧
    (∃ records, Csv.readStandard c.tableReport = some records ∧
      records.length = c.total + 1 + (c.results.map (·.bareReturns)).sum ∧
      (records = c.table ↔ Csv.KeepsRows c.table)) ∧
    (Csv.KeepsRows c.table ↔ ∀ r ∈ c.results,
      ∀ text ∈ [r.record.sheet, r.record.cell, r.record.formula],
        '\r' ∈ text.toList → text.toList.any Csv.isSpecial = true) := by
  have htable := c.hasFirmEnd_of_mem_table
  have hkeeps := Csv.keepsRows_iff htable
  obtain ⟨records, hread, hlength, hsame⟩ := Csv.exists_readStandard_toText htable
  rw [c.sum_bareReturns_table] at hkeeps hlength hsame
  refine ⟨?ends, ⟨records, hread, ?count, hsame.trans hkeeps.symm⟩, hkeeps.trans ?texts⟩
  case ends =>
    rw [tableReport, Csv.lineEnds_toText fun row hrow ↦ (htable row hrow).1, table,
      List.flatMap_cons, sum_bareReturns_tableHeadings, List.flatMap_map]
    simp only [Classified.sum_bareReturns_tableRow]
    rfl
  case count =>
    rw [hlength, table, List.length_cons, List.length_map]
    rfl
  case texts =>
    simp only [List.sum_eq_zero_iff_forall_eq_nat, List.forall_mem_map, Classified.bareReturns,
      Nat.add_eq_zero_iff, Csv.bareReturns_eq_zero_iff, List.forall_mem_cons, List.not_mem_nil,
      false_imp_iff, implies_true, and_true, and_assoc]

/-- The corpus of one formula with a carriage return in it. -/
def formulaOverTwoLines : Corpus :=
  Tally.aggregate .standard [{ sheet := "S", cell := "A1", formula := "A1+\rB1" }]

/-- One result has two records. -/
theorem row_broken_by_return :
    formulaOverTwoLines.total = 1 ∧
      formulaOverTwoLines.tableReport =
        "Sheet,Cell,Formula,Category,Length,FunctionCount\nS,A1,A1+\rB1,SIMPLE,6,0\n" ∧
      Csv.readStandard formulaOverTwoLines.tableReport =
        some [tableHeadings, ["S", "A1", "A1+"], ["B1", "SIMPLE", "6", "0"]] ∧
      ¬ Csv.KeepsRows formulaOverTwoLines.table := by
  have hreport : formulaOverTwoLines.tableReport =
      "Sheet,Cell,Formula,Category,Length,FunctionCount\nS,A1,A1+\rB1,SIMPLE,6,0\n" := by
    decide +kernel
  have hread : Csv.readStandard formulaOverTwoLines.tableReport =
      some [tableHeadings, ["S", "A1", "A1+"], ["B1", "SIMPLE", "6", "0"]] := by
    rw [hreport]
    decide +kernel
  refine ⟨by decide +kernel, hreport, hread, fun ⟨_, records, hrecords, hlength⟩ ↦ ?_⟩
  obtain rfl := Option.some.inj (hread.symm.trans hrecords)
  revert hlength
  decide +kernel

end Corpus

end FormulaAudit
