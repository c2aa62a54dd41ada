import FormulaAudit.Proofs.Corpus.Groups
import FormulaAudit.Proofs.Corpus.Names

/-!
What a corpus owes the records that it is made of. `Summarizes` says it view by view, without
saying how the views are found; the corpus of some records does what it owes them
(`ofRecords_summarizes`).
-/

set_option autoImplicit false

namespace FormulaAudit

theorem Classifier.record_classify (k : Classifier) (record : Record) :
    (k.classify record).record = record := by
  unfold classify
  cases k.book.decidingRule? record.formula <;> rfl

namespace Corpus

variable {k : Classifier} {records : List Record} {results : List Classified}

/-- The results are the classified records in order, and each view is the part of them that
belongs to it. -/
structure Summarizes (c : Corpus) (k : Classifier) (records : List Record) : Prop where
  results : c.results = records.map k.classify
  categories : c.categories.map Prod.fst = Category.all
  byCategory (category : Category) :
    c.byCategory category = c.results.filter (·.category = category)
  /-- Each sheet stands once, before all sheets that appear after it. -/
  sheets_ordered : (c.bySheet.map Prod.fst).Pairwise fun first second ↦
    (records.map (·.sheet)).idxOf first < (records.map (·.sheet)).idxOf second
  mem_sheets (name : String) :
    name ∈ c.bySheet.map Prod.fst ↔ ∃ record ∈ records, record.sheet = name
  sheet (name : String) : c.sheet name = c.results.filter (·.record.sheet = name)
  sheet_ne_nil {name : String} : name ∈ c.bySheet.map Prod.fst → c.sheet name ≠ []
  names_ascending : Ascending c.functionNames
  mem_names (name : String) :
    name ∈ c.functionNames ↔ ∃ result ∈ c.results, name ∈ result.features.functionNames

theorem sheets_map_classify (k : Classifier) (records : List Record) :
    (records.map k.classify).map (·.record.sheet) = records.map (·.sheet) := by
  rw [List.map_map]
  exact List.map_congr_left fun record _ ↦ by simp [Classifier.record_classify]

theorem keys_bySheet_ofResults (results : List Classified) :
    (ofResults results).bySheet.map Prod.fst = sheetsOf results := Groups.keys_byKey _ _ _

theorem keys_bySheet_ofRecords (k : Classifier) (records : List Record) :
    (ofRecords k records).bySheet.map Prod.fst = (records.map (·.sheet)).eraseDups := by
  rw [ofRecords, keys_bySheet_ofResults, sheetsOf, sheets_map_classify]

theorem mem_sheetsOf {name : String} :
    name ∈ sheetsOf results ↔ ∃ result ∈ results, result.record.sheet = name := by
  rw [sheetsOf, List.mem_eraseDups, List.mem_map]

theorem sheet_ofResults (results : List Classified) (name : String) :
    (ofResults results).sheet name = results.filter (·.record.sheet = name) := by
  by_cases hname : name ∈ sheetsOf results
  · exact Groups.under_byKey hname
  · have hnone : results.filter (·.record.sheet = name) = [] :=
      List.filter_eq_nil_iff.mpr fun result hresult hsheet ↦
        hname (mem_sheetsOf.mpr ⟨result, hresult, of_decide_eq_true hsheet⟩)
    rw [hnone]
    exact Groups.under_of_not_mem (by rwa [keys_bySheet_ofResults])

theorem byCategory_ofResults (results : List Classified) (category : Category) :
    (ofResults results).byCategory category = results.filter (·.category = category) :=
  Groups.under_byKey (Category.mem_all category)

/-- Every result belongs to exactly one category. -/
theorem length_filter_categories (results : List Classified) :
    (results.filter (·.category = .simple)).length + (results.filter (·.category = .medium)).length
      + (results.filter (·.category = .complex)).length = results.length := by
  induction results with
  | nil => rfl
  | cons result results ih =>
    rw [List.length_cons, ← ih]
    cases hcategory : result.category <;> simp [hcategory] <;> omega

theorem Summarizes.total_eq {c : Corpus} (hc : c.Summarizes k records) :
    c.total = c.count .simple + c.count .medium + c.count .complex := by
  rw [count, count, count, hc.byCategory, hc.byCategory, hc.byCategory, length_filter_categories]
  rfl

theorem ofRecords_summarizes (k : Classifier) (records : List Record) :
    (ofRecords k records).Summarizes k records where
  results := rfl
  categories := Groups.keys_byKey _ _ _
  byCategory := byCategory_ofResults _
  sheets_ordered := by
    rw [keys_bySheet_ofRecords]
    exact Groups.pairwise_idxOf_eraseDups _
  mem_sheets name := by
    rw [keys_bySheet_ofRecords, List.mem_eraseDups, List.mem_map]
  sheet := sheet_ofResults _
  sheet_ne_nil := by
    intro name hname
    rw [ofRecords, keys_bySheet_ofResults] at hname
    obtain ⟨result, hresult, hsheet⟩ := mem_sheetsOf.mp hname
    rw [ofRecords, sheet_ofResults]
    exact List.ne_nil_of_mem (List.mem_filter.mpr ⟨hresult, decide_eq_true hsheet⟩)
  names_ascending := ascending_namesOf _
  mem_names _ := mem_namesOf

end Corpus

end FormulaAudit
