import FormulaAudit.Proofs.Classification.Evidence
import FormulaAudit.Proofs.Csv.Reader
import FormulaAudit.Proofs.Tally.Session
import FormulaAudit.Report.Table

/-!
The table report loses nothing. Whatever the sheets, cells and formulas hold, reading the report
gives the headings and then, in the order of discovery, one row for each result; if the results are
those of a classifier, the row is settled by the record alone (`read_tableReport`).
-/

set_option autoImplicit false

namespace FormulaAudit.Corpus

theorem ne_nil_of_mem_table (c : Corpus) : ∀ row ∈ c.table, row ≠ [] := by
  intro row hrow
  rcases List.mem_cons.mp hrow with rfl | hrow
  · exact List.cons_ne_nil _ _
  · obtain ⟨r, -, rfl⟩ := List.mem_map.mp hrow
    exact List.cons_ne_nil _ _

theorem read_tableReport_eq_table (c : Corpus) : Csv.read c.tableReport = some c.table :=
  Csv.read_toText c.ne_nil_of_mem_table

theorem tableRow_classify (k : Classifier) (record : Record) :
    (k.classify record).tableRow =
      [record.sheet, record.cell, record.formula, (k.category record.formula).name,
        toString record.formula.length,
        toString (Features.ofFormula record.formula).functionCount] := by
  have hjustified := k.justified_classify record
  rw [Classified.tableRow, hjustified.record, hjustified.features, k.category_classify]
  rfl

end FormulaAudit.Corpus
