import FormulaAudit.Proofs.Tally.Session
import FormulaAudit.FunctionCatalogue
import FormulaAudit.Request

/-!
The order of discovery. Records that are found in another order make a corpus with the same results
and the same views, only rearranged: `Rearranges` says so view by view. It holds of tallies in use
(`Holds.rearranges`) and so of aggregates (`aggregate_rearranges`). What reports work out from the
views depends on counts and on the names of functions, which keep nothing of the order
(`ReportsAlike`).

Sheets of one size keep the order in which they were found, so a list of sheets by size is not among
the values that agree.
-/

set_option autoImplicit false

namespace FormulaAudit

namespace Corpus

variable {c d : Corpus} {results more : List Classified}

/-- Two corpora hold the same results in whatever order, and so does each view of them. -/
structure Rearranges (c d : Corpus) : Prop where
  results : c.results.Perm d.results
  byCategory (category : Category) : (c.byCategory category).Perm (d.byCategory category)
  sheets : (c.bySheet.map Prod.fst).Perm (d.bySheet.map Prod.fst)
  sheet (name : String) : (c.sheet name).Perm (d.sheet name)
  functionNames : c.functionNames = d.functionNames

/-- What reports work out from two corpora is the same. -/
structure ReportsAlike (c d : Corpus) : Prop where
  total : c.total = d.total
  count (category : Category) : c.count category = d.count category
  percentage (category : Category) : c.requestPercentage category = d.requestPercentage category
  sheetCount : c.sheetCount = d.sheetCount
  sheetCategoryCount (name : String) (category : Category) :
    c.sheetCategoryCount name category = d.sheetCategoryCount name category
  primaryCategory (name : String) : c.primaryCategory name = d.primaryCategory name
  rating : c.rating = d.rating
  functionUsage : c.functionUsage = d.functionUsage
  groups : FunctionCatalogue.categorize c.functionNames = FunctionCatalogue.categorize d.functionNames
  plan : c.requestPlan = d.requestPlan

/-! ### The views -/

theorem sheetsOf_perm (h : results.Perm more) : (sheetsOf results).Perm (sheetsOf more) := by
  refine (List.perm_ext_iff_of_nodup (Groups.nodup_eraseDups _) (Groups.nodup_eraseDups _)).mpr
    fun name ↦ ?_
  rw [List.mem_eraseDups, List.mem_eraseDups]
  exact (h.map _).mem_iff

theorem namesOf_eq_of_perm (h : results.Perm more) : namesOf results = namesOf more := by
  refine (ascending_namesOf results).eq_of_mem_iff (ascending_namesOf more) fun name ↦ ?_
  rw [mem_namesOf, mem_namesOf]
  exact exists_congr fun result ↦ and_congr_left' h.mem_iff

theorem ofResults_rearranges (h : results.Perm more) :
    (ofResults results).Rearranges (ofResults more) where
  results := h
  byCategory category := by
    rw [byCategory_ofResults, byCategory_ofResults]
    exact h.filter _
  sheets := by
    rw [keys_bySheet_ofResults, keys_bySheet_ofResults]
    exact sheetsOf_perm h
  sheet name := by
    rw [sheet_ofResults, sheet_ofResults]
    exact h.filter _
  functionNames := namesOf_eq_of_perm h

/-! ### The values worked out from them -/

namespace Rearranges

theorem total_eq (h : c.Rearranges d) : c.total = d.total := h.results.length_eq

theorem isEmpty_eq (h : c.Rearranges d) : c.isEmpty = d.isEmpty := h.results.isEmpty_eq

theorem count_eq (h : c.Rearranges d) (category : Category) :
    c.count category = d.count category := (h.byCategory category).length_eq

theorem sheetCount_eq (h : c.Rearranges d) : c.sheetCount = d.sheetCount := by
  have hkeys := h.sheets.length_eq
  rwa [List.length_map, List.length_map] at hkeys

theorem sheetCategoryCount_eq (h : c.Rearranges d) (name : String) (category : Category) :
    c.sheetCategoryCount name category = d.sheetCategoryCount name category :=
  (h.sheet name).countP_eq _

theorem percentage_eq (h : c.Rearranges d) (category : Category) :
    c.percentage category = d.percentage category := by
  rw [percentage, percentage, h.count_eq, h.total_eq]

theorem primaryCategory_eq (h : c.Rearranges d) (name : String) :
    c.primaryCategory name = d.primaryCategory name := by
  simp only [primaryCategory, h.sheetCategoryCount_eq]

theorem rating_eq (h : c.Rearranges d) : c.rating = d.rating := by
  rw [rating, rating, h.count_eq, h.total_eq]

theorem functionUsage_eq (h : c.Rearranges d) : c.functionUsage = d.functionUsage := by
  rw [functionUsage, functionUsage, h.functionNames]
  refine List.map_congr_left fun name _ ↦ ?_
  rw [h.results.countP_eq]

theorem migrationPlan_eq (h : c.Rearranges d) : c.migrationPlan = d.migrationPlan := by
  simp only [migrationPlan, h.count_eq, h.total_eq]

/-- Both corpora refuse a request, or both answer it. -/
theorem unlessEmpty_eq {α : Type} {answer other : α} (h : c.Rearranges d) (purpose : Purpose)
    (hanswer : answer = other) : c.unlessEmpty purpose answer = d.unlessEmpty purpose other := by
  rw [unlessEmpty, unlessEmpty, h.isEmpty_eq, hanswer]

theorem reportsAlike (h : c.Rearranges d) : c.ReportsAlike d where
  total := h.total_eq
  count := h.count_eq
  percentage category := h.unlessEmpty_eq _ (h.percentage_eq category)
  sheetCount := h.sheetCount_eq
  sheetCategoryCount := h.sheetCategoryCount_eq
  primaryCategory := h.primaryCategory_eq
  rating := h.rating_eq
  functionUsage := h.functionUsage_eq
  groups := congrArg FunctionCatalogue.categorize h.functionNames
  plan := h.unlessEmpty_eq _ h.migrationPlan_eq

end Rearranges

end Corpus

namespace Tally

variable {t u : Tally} {k : Classifier} {records others : List Record}

/-- Tallies of the same records, gathered in whatever order, hold the same corpus up to order. -/
theorem Holds.rearranges (ht : t.Holds k records) (hu : u.Holds k others)
    (h : records.Perm others) : t.snapshot.Rearranges u.snapshot := by
  rw [ht.snapshot, hu.snapshot]
  exact Corpus.ofResults_rearranges (h.map k.classify)

/-- Sessions that gathered the same records take the same snapshot up to order, whatever else
happened in them. -/
theorem Session.rearranges_of_gathered {events later : List Event}
    (h : (gathered events).Perm (gathered later)) :
    ((start k).run events).tally.snapshot.Rearranges ((start k).run later).tally.snapshot :=
  (holds_start_run k events).rearranges (holds_start_run k later) h

/-- A corpus does not say in which order its records were found: each view is rearranged with the
records, and what reports work out from the views stays as it is. -/
theorem aggregate_rearranges (k : Classifier) (h : records.Perm others) :
    (aggregate k records).Rearranges (aggregate k others) ∧
      (aggregate k records).ReportsAlike (aggregate k others) := by
  have hviews : (aggregate k records).Rearranges (aggregate k others) :=
    ((holds_empty k).addAll records).rearranges ((holds_empty k).addAll others) h
  exact ⟨hviews, hviews.reportsAlike⟩

/-- Two formulas on two sheets. -/
def twoSheets : List Record :=
  [{ sheet := "Data", cell := "A1", formula := "SUM(B1:B9)" },
   { sheet := "Notes", cell := "C4", formula := "Data!A1" }]

/-- Found in either order, the sheets stand in the order in which they were found, and nothing else
tells the corpora apart. -/
theorem aggregate_rearranges_two_sheets :
    (aggregate .standard twoSheets).bySheet.map Prod.fst = ["Data", "Notes"] ∧
      (aggregate .standard twoSheets.reverse).bySheet.map Prod.fst = ["Notes", "Data"] ∧
      (aggregate .standard twoSheets.reverse).Rearranges (aggregate .standard twoSheets) ∧
      (aggregate .standard twoSheets.reverse).ReportsAlike (aggregate .standard twoSheets) := by
  refine ⟨?_, ?_, aggregate_rearranges .standard twoSheets.reverse_perm⟩
  · rw [aggregate_eq, Corpus.keys_bySheet_ofRecords]
    decide
  · rw [aggregate_eq, Corpus.keys_bySheet_ofRecords]
    decide

end Tally

end FormulaAudit
