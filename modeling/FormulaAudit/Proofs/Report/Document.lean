import FormulaAudit.Proofs.Corpus.Records
import FormulaAudit.Proofs.Json.Printer
import FormulaAudit.Proofs.Tally.Session
import FormulaAudit.Report.Document

/-!
The document report loses nothing. Its text is in the grammar of JSON and writes one value only, the
document, so whatever reads JSON by the grammar gets the document back: every member in its place,
every list in its order, every text character by character (`documentReport_writes`). What the
members are is said by the records (`Classifier.documentAbout`). No object of the document has a key
twice, although sheet names are keys, so nothing is lost either to a reader that keeps one member
for each key.
-/

set_option autoImplicit false

namespace FormulaAudit

/-- No object in the value has a key twice. -/
inductive Json.DistinctKeys : Json → Prop where
  | null : DistinctKeys null
  | bool (b : Bool) : DistinctKeys (bool b)
  | int (n : Int) : DistinctKeys (int n)
  | decimal (negative : Bool) (d : Decimal) : DistinctKeys (decimal negative d)
  | str (s : String) : DistinctKeys (str s)
  | arr {items : List Json} (hitems : ∀ item ∈ items, DistinctKeys item) : DistinctKeys (arr items)
  | obj {members : List (String × Json)} (hkeys : (members.map Prod.fst).Nodup)
      (hvalues : ∀ member ∈ members, DistinctKeys member.2) : DistinctKeys (obj members)

/-- What the document tells of a record. -/
def Classifier.entryOf (k : Classifier) (record : Record) : Json :=
  .obj [("sheet", .str record.sheet), ("cell", .str record.cell), ("formula", .str record.formula),
    ("value", .str record.value), ("category", .str (k.category record.formula).name)]

/-- The document about records, member by member. The sheets are those of the records, and the
functions those that they call. -/
def Classifier.documentAbout (k : Classifier) (records : List Record)
    (sheets functions : List String) (name : String) (generated : Moment) : Json :=
  let entries (some : List Record) : Json := .arr (some.map k.entryOf)
  let entriesIn (category : Category) : Json :=
    entries (records.filter (k.category ·.formula = category))
  .obj
    [("file", .str name),
      ("generated_at", .str generated.toText),
      ("summary", .obj
        [("total_formulas", .int records.length),
          ("worksheets", .int sheets.length),
          ("unique_functions", .arr (functions.map .str)),
          ("complexity_distribution", .obj
            [("simple", .int (k.countIn .simple records)),
              ("medium", .int (k.countIn .medium records)),
              ("complex", .int (k.countIn .complex records))])]),
      ("formulas_by_category", .obj
        [("SIMPLE", entriesIn .simple), ("MEDIUM", entriesIn .medium),
          ("COMPLEX", entriesIn .complex)]),
      ("formulas_by_sheet", .obj
        (sheets.map fun sheet ↦ (sheet, entries (records.filter (·.sheet = sheet))))),
      ("all_formulas", entries records)]

theorem Classifier.toJson_classify (k : Classifier) (record : Record) :
    (k.classify record).toJson =
      .obj [("sheet", .str record.sheet), ("cell", .str record.cell),
        ("formula", .str record.formula), ("value", .str record.value),
        ("category", .str (k.category record.formula).name)] := by
  rw [Classified.toJson, k.record_classify, k.category_classify]
  rfl

theorem distinctKeys_formulaArray (results : List Classified) :
    (formulaArray results).DistinctKeys := by
  refine .arr fun item hitem ↦ ?_
  obtain ⟨r, -, rfl⟩ := List.mem_map.mp hitem
  refine .obj (by simp [Record.jsonMembers]) fun member hmember ↦ ?_
  simp only [Record.jsonMembers, List.cons_append, List.nil_append, List.mem_cons,
    List.not_mem_nil, or_false] at hmember
  rcases hmember with rfl | rfl | rfl | rfl | rfl <;> exact .str _

namespace Corpus

theorem distinctKeys_summary (c : Corpus) : c.summary.DistinctKeys := by
  have hnames : (Json.arr (c.functionNames.map .str)).DistinctKeys := by
    refine .arr fun item hitem ↦ ?_
    obtain ⟨name, -, rfl⟩ := List.mem_map.mp hitem
    exact .str name
  have hcounts : (Json.obj (Category.all.map fun category ↦
      (category.lowerName, .int (c.count category)))).DistinctKeys := by
    refine .obj (by simp [Category.all, Category.lowerName]) fun member hmember ↦ ?_
    obtain ⟨category, -, rfl⟩ := List.mem_map.mp hmember
    exact .int _
  refine .obj (by simp) fun member hmember ↦ ?_
  simp only [List.mem_cons, List.not_mem_nil, or_false] at hmember
  rcases hmember with rfl | rfl | rfl | rfl
  · exact .int _
  · exact .int _
  · exact hnames
  · exact hcounts

/-- Sheet names are the only keys that are not fixed. -/
theorem distinctKeys_document {c : Corpus} (hsheets : (c.bySheet.map Prod.fst).Nodup)
    (name : String) (generated : Moment) : (c.document name generated).DistinctKeys := by
  have hcategories : (Json.obj (Category.all.map fun category ↦
      (category.name, formulaArray (c.byCategory category)))).DistinctKeys := by
    refine .obj (by simp [Category.all, Category.name]) fun member hmember ↦ ?_
    obtain ⟨category, -, rfl⟩ := List.mem_map.mp hmember
    exact distinctKeys_formulaArray _
  have hgroups : (Json.obj (c.bySheet.map fun group ↦
      (group.1, formulaArray group.2))).DistinctKeys := by
    refine .obj (by rwa [List.map_map]) fun member hmember ↦ ?_
    obtain ⟨group, -, rfl⟩ := List.mem_map.mp hmember
    exact distinctKeys_formulaArray _
  refine .obj (by simp) fun member hmember ↦ ?_
  simp only [List.mem_cons, List.not_mem_nil, or_false] at hmember
  rcases hmember with rfl | rfl | rfl | rfl | rfl | rfl
  · exact .str _
  · exact .str _
  · exact c.distinctKeys_summary
  · exact hcategories
  · exact hgroups
  · exact distinctKeys_formulaArray _

theorem formulaArray_classify (k : Classifier) (records : List Record) :
    formulaArray (records.map k.classify) = .arr (records.map k.entryOf) := by
  rw [formulaArray, List.map_map]
  exact congrArg Json.arr (List.map_congr_left fun record _ ↦ k.toJson_classify record)

/-- The document about a corpus that does what it owes its records. -/
theorem Summarizes.document_eq {c : Corpus} {k : Classifier} {records : List Record}
    (hc : c.Summarizes k records) (name : String) (generated : Moment) :
    c.document name generated =
      k.documentAbout records (c.bySheet.map Prod.fst) c.functionNames name generated := by
  have hall : formulaArray c.results = .arr (records.map k.entryOf) := by
    rw [hc.results, formulaArray_classify]
  have hcategory : ∀ category, formulaArray (c.byCategory category) =
      .arr ((records.filter (k.category ·.formula = category)).map k.entryOf) := by
    intro category
    rw [hc.byCategory_eq_map, formulaArray_classify]
  have hsheets : (c.bySheet.map fun group ↦ (group.1, formulaArray group.2)) =
      (c.bySheet.map Prod.fst).map fun sheet ↦
        (sheet, .arr ((records.filter (·.sheet = sheet)).map k.entryOf)) := by
    rw [List.map_map]
    refine List.map_congr_left fun group hgroup ↦ ?_
    rw [hc.group_eq_map hgroup, formulaArray_classify]
    rfl
  simp only [document, summary, Classifier.documentAbout, hall, hcategory, hsheets,
    hc.total_eq_length, hc.count_eq_countIn, Category.all, List.map_cons, List.map_nil, sheetCount,
    List.length_map]
  rfl

/-- The report of a corpus writes the document about it and nothing else, and the reader gets that
document back, which tells of the records what there is to tell. -/
theorem documentReport_writes (k : Classifier) (records : List Record) (name : String)
    (generated : Moment) :
    let c := Tally.aggregate k records
    let document := c.document name generated
    Json.parse? (c.documentReport name generated) = some document ∧
      (∀ j, Json.WritesText j (c.documentReport name generated) ↔ j = document) ∧
      document.DistinctKeys ∧
      document =
        k.documentAbout records (c.bySheet.map Prod.fst) c.functionNames name generated := by
  have hsummary := Tally.summarizes_aggregate k records
  exact ⟨Json.parse?_toText _, fun j ↦ Json.writesText_toText_iff _ j,
    distinctKeys_document hsummary.nodup_sheets name generated,
    hsummary.document_eq name generated⟩

end Corpus

end FormulaAudit
