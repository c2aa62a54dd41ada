import FormulaAudit.Proofs.Report.Document
import FormulaAudit.Proofs.Report.Table

/-!
One corpus in several views. The document lists the formulas three times, all of them, by category
and by sheet, and counts them in its summary; the table lists them once more. `TellAlike` says what
the views owe each other, and says it of a document and of rows as a reader finds them, without the
corpus: every part is the part of the list of all formulas that it is named after, and every number
is the length of a list. The reports of a corpus do so if the corpus does what it owes its records
(`Summarizes.tellAlike`), and so those of an aggregate do (`reports_tellAlike`).
-/

set_option autoImplicit false

namespace FormulaAudit

/-! ### Parts of a document -/

namespace Json

variable {members : List (String × Json)} {key : String} {part : Json}

/-- What some keys lead to, one after the other. -/
def memberAt? (keys : List String) (j : Json) : Option Json :=
  keys.foldlM (fun part key ↦ part.field? key) j

/-- The items that hold a text under a key. -/
def having (key text : String) (items : List Json) : List Json :=
  items.filter (·.textField? key = some text)

/-- The texts that items hold under a key. -/
def textsUnder (key : String) (items : List Json) : List String :=
  items.filterMap (·.textField? key)

end Json

/-- The keys are those that occur, in the order in which they appear first. -/
structure FirstAppearances (keys occurrences : List String) : Prop where
  mem (key : String) : key ∈ keys ↔ key ∈ occurrences
  ordered : keys.Pairwise fun first second ↦ occurrences.idxOf first < occurrences.idxOf second

/-- A document and the rows of a table tell of the same formulas, which are all that the document
lists. -/
structure TellAlike (document : Json) (rows : List (List String)) (formulas : List Json) : Prop where
  all : document.memberAt? ["all_formulas"] = some (.arr formulas)
  total : document.memberAt? ["summary", "total_formulas"] = some (.int formulas.length)
  byCategory (category : Category) :
    document.memberAt? ["formulas_by_category", category.name] =
      some (.arr (Json.having "category" category.name formulas))
  distribution (category : Category) :
    document.memberAt? ["summary", "complexity_distribution", category.lowerName] =
      some (.int (Json.having "category" category.name formulas).length)
  bySheet : ∃ groups : List (String × Json),
    document.memberAt? ["formulas_by_sheet"] = some (.obj groups) ∧
    document.memberAt? ["summary", "worksheets"] = some (.int groups.length) ∧
    FirstAppearances (groups.map Prod.fst) (Json.textsUnder "sheet" formulas) ∧
    ∀ group ∈ groups, group.2 = .arr (Json.having "sheet" group.1 formulas)
  functions : ∃ names : List String,
    document.memberAt? ["summary", "unique_functions"] = some (.arr (names.map .str)) ∧
    Ascending names ∧ ∀ name, name ∈ names ↔
      ∃ formula ∈ Json.textsUnder "formula" formulas, name ∈ Features.functionNamesOf formula
  length_rows : rows.length = formulas.length
  rows : rows.map (fun row ↦ (row.take 4).map some) =
    formulas.map fun item ↦ ["sheet", "cell", "formula", "category"].map item.textField?

/-! ### The reports of a corpus -/

section Formulas

variable {results : List Classified} {key : String} {textOf : Classified → String}

/-- Results and the objects that tell of them are sorted alike. -/
theorem having_map_toJson (htext : ∀ r : Classified, r.toJson.textField? key = some (textOf r))
    (text : String) : Json.having key text (results.map (·.toJson)) =
      (results.filter (textOf · = text)).map (·.toJson) := by
  rw [Json.having, List.filter_map]
  congr 1
  refine List.filter_congr fun r _ ↦ ?_
  simp [htext]

theorem textsUnder_map_toJson (htext : ∀ r : Classified, r.toJson.textField? key = some (textOf r)) :
    Json.textsUnder key (results.map (·.toJson)) = results.map textOf := by
  rw [Json.textsUnder, List.filterMap_map]
  simp only [Function.comp_def, htext]
  exact congrFun List.filterMap_eq_map results

end Formulas

theorem Category.name_injective : Function.Injective Category.name := by
  intro first second hname
  cases first <;> cases second <;> first | rfl | exact absurd hname (by decide)

namespace Corpus

variable {c : Corpus} {k : Classifier} {records : List Record}

theorem having_category (results : List Classified) (category : Category) :
    Json.having "category" category.name (results.map (·.toJson)) =
      (results.filter (·.category = category)).map (·.toJson) := by
  have htext : ∀ r : Classified, r.toJson.textField? "category" = some r.category.name := fun _ ↦ rfl
  rw [having_map_toJson htext]
  simp only [Category.name_injective.eq_iff]

theorem memberAt?_category (c : Corpus) (name : String) (generated : Moment) (category : Category) :
    (c.document name generated).memberAt? ["formulas_by_category", category.name] =
      some (formulaArray (c.byCategory category)) := by
  cases category <;> rfl

theorem memberAt?_distribution (c : Corpus) (name : String) (generated : Moment)
    (category : Category) :
    (c.document name generated).memberAt?
        ["summary", "complexity_distribution", category.lowerName] =
      some (.int (c.count category)) := by
  cases category <;> rfl

theorem Summarizes.firstAppearances (hc : c.Summarizes k records) :
    FirstAppearances (c.bySheet.map Prod.fst) (records.map (·.sheet)) where
  mem name := by rw [hc.mem_sheets, List.mem_map]
  ordered := hc.sheets_ordered

/-- The reports of a corpus that does what it owes its records tell of the same formulas. -/
theorem Summarizes.tellAlike (hc : c.Summarizes k records) (name : String) (generated : Moment) :
    TellAlike (c.document name generated) (c.results.map (·.tableRow))
      (c.results.map (·.toJson)) where
  all := rfl
  total := by
    rw [List.length_map]
    rfl
  byCategory category := by
    rw [memberAt?_category, hc.byCategory, having_category, formulaArray]
  distribution category := by
    rw [memberAt?_distribution, count, hc.byCategory, having_category, List.length_map]
  bySheet := by
    have hsheet : ∀ r : Classified, r.toJson.textField? "sheet" = some r.record.sheet := fun _ ↦ rfl
    refine ⟨_, rfl, ?count, ?order, ?groups⟩
    case count =>
      rw [List.length_map]
      rfl
    case order =>
      rw [textsUnder_map_toJson hsheet, hc.results, sheets_map_classify, List.map_map]
      exact hc.firstAppearances
    case groups =>
      intro member hmember
      obtain ⟨⟨sheet, results⟩, hgroup, rfl⟩ := List.mem_map.mp hmember
      rw [having_map_toJson hsheet, ← hc.sheet, ← hc.group_eq hgroup]
      rfl
  functions := by
    have hformula : ∀ r : Classified, r.toJson.textField? "formula" = some r.record.formula :=
      fun _ ↦ rfl
    refine ⟨c.functionNames, rfl, hc.names_ascending, fun function ↦ ?_⟩
    rw [hc.mem_names, textsUnder_map_toJson hformula, hc.results]
    simp only [List.mem_map, exists_exists_and_eq_and, k.record_classify]
    refine exists_congr fun record ↦ and_congr_right fun _ ↦ ?_
    rw [(k.justified_classify record).features]
    rfl
  length_rows := by rw [List.length_map, List.length_map]
  rows := by
    rw [List.map_map, List.map_map]
    rfl

/-- The document and the table of an aggregate tell of the same formulas, one for each record, in
the order of the records. -/
theorem reports_tellAlike (k : Classifier) (records : List Record) (name : String)
    (generated : Moment) :
    let c := Tally.aggregate k records
    ∃ rows, Csv.read c.tableReport = some (tableHeadings :: rows) ∧
      TellAlike (c.document name generated) rows (records.map fun record ↦
        .obj [("sheet", .str record.sheet), ("cell", .str record.cell),
          ("formula", .str record.formula), ("value", .str record.value),
          ("category", .str (k.category record.formula).name)]) := by
  intro c
  have hc : c.Summarizes k records := Tally.summarizes_aggregate k records
  refine ⟨c.results.map Classified.tableRow, c.read_tableReport_eq_table, ?_⟩
  have hformulas : c.results.map (·.toJson) = records.map fun record ↦
      .obj [("sheet", .str record.sheet), ("cell", .str record.cell),
        ("formula", .str record.formula), ("value", .str record.value),
        ("category", .str (k.category record.formula).name)] := by
    rw [hc.results, List.map_map]
    exact List.map_congr_left fun record _ ↦ k.toJson_classify record
  rw [← hformulas]
  exact hc.tellAlike name generated

end Corpus

end FormulaAudit
