import FormulaAudit.Proofs.Report.Escaping
import FormulaAudit.Proofs.Report.Lines
import FormulaAudit.Proofs.Tally.Session

/-!
The inventory at the end of the narrative report. Of each category it lists results from the front,
numbered from one, and counts the rest in a note that is there exactly if there is a rest
(`ListsFront`). An entry shows where the formula stands and the whole formula, escaped
(`entryLine`). Simple formulas are all listed; of the others a limit that is not negative lists as
many, and a negative one leaves out as many at the end. Unlike the note of a sample, that of the
inventory goes by what is listed and not by the limit, so that entries and note come to the size of
the category under every limit (`appendix_listsFront`).
-/

set_option autoImplicit false

namespace FormulaAudit

namespace Report

/-- An entry of the inventory: the number, to the right of three places, the sheet and the cell, and
the whole formula with a backslash in front of each backtick and each pipe. -/
def entryLine (number : ℕ) (r : Classified) : String :=
  String.ofList (List.replicate (3 - (toString number).length) ' ') ++ toString number ++ ". "
    ++ r.record.sheet ++ "!" ++ r.record.cell ++ ": `"
    ++ String.ofList (escapeEach '|' (escapeEach '\x60' r.record.formula.toList)) ++ "`"

/-- The inventory of a category of so many results: a title, a numbered entry for each result that is
listed, and a note of how many are left out, unless none are. -/
def inventoryBlock (category : Category) (total : ℕ) (entries : List Classified) (omitted : ℕ) :
    List String :=
  ("#### " ++ category.label ++ " Formulas (" ++ toString total ++ " total)") ::
    entries.mapIdx (fun i r ↦ entryLine (i + 1) r) ++
    (if omitted = 0 then [] else
      ["", "*... and " ++ toString omitted ++ " more " ++ category.lowerName ++ " formulas*"]) ++ [""]

/-- How many of so many results a limit lists, all of them without a limit. -/
def listedLength (limit? : Option ℤ) (total : ℕ) : ℕ :=
  match limit? with
  | none => total
  | some limit => if 0 ≤ limit then min limit.toNat total else total - limit.natAbs

/-- The entries are results from the front of a list, as many as the limit allows for, and so many of
the list are left out. -/
structure ListsFront (results : List Classified) (limit? : Option ℤ) (entries : List Classified)
    (omitted : ℕ) : Prop where
  isPrefix : entries <+: results
  length_entries : entries.length = listedLength limit? results.length
  length_add_omitted : entries.length + omitted = results.length
  omitted_iff : omitted ≠ 0 ↔ entries ≠ results

variable (settings : Settings) (c : Corpus) (category : Category)

theorem listed_isPrefix : listed settings c category <+: c.byCategory category := by
  unfold listed
  cases inventoryLimit? settings category with
  | none => exact List.prefix_rfl
  | some limit => exact excerpt_prefix limit _

theorem length_listed : (listed settings c category).length =
    listedLength (inventoryLimit? settings category) (c.byCategory category).length := by
  unfold listed
  cases inventoryLimit? settings category with
  | none => rfl
  | some limit => exact length_excerpt limit _

theorem listsFront_listed :
    ListsFront (c.byCategory category) (inventoryLimit? settings category)
      (listed settings c category)
      ((c.byCategory category).length - (listed settings c category).length) := by
  have hfront := listed_isPrefix settings c category
  have hle := hfront.length_le
  refine ⟨hfront, length_listed settings c category, by omega, ?_⟩
  rw [not_iff_not]
  exact ⟨fun hnone ↦ hfront.eq_of_length (by omega), fun heq ↦ by rw [heq, Nat.sub_self]⟩

theorem inventoryNote_eq (shown total : ℕ) :
    inventoryNote category shown total = if total - shown = 0 then [] else
      ["", "*... and " ++ toString (total - shown) ++ " more " ++ category.lowerName
        ++ " formulas*"] := by
  unfold inventoryNote
  by_cases hmore : shown < total
  · rw [if_pos hmore, if_neg (by omega)]
  · rw [if_neg hmore, if_pos (by omega)]

theorem inventoryLine_eq (number : ℕ) (r : Classified) :
    inventoryLine number r = entryLine number r := by
  rw [inventoryLine, entryLine, escapeFormula, escapeMarks_eq_escapeEach, Text.padLeft,
    Record.address]
  simp only [String.append_assoc]

theorem inventoryLines_eq :
    inventoryLines settings c category =
      inventoryBlock category (c.byCategory category).length (listed settings c category)
        ((c.byCategory category).length - (listed settings c category).length) := by
  rw [inventoryLines, map_numbered, inventoryNote_eq]
  simp only [inventoryLine_eq]
  rfl

end Report

namespace Corpus

open Report

variable (c : Corpus) (settings : Settings) (name : String) (generated : Moment)

theorem appendixLines_isInfix :
    appendixLines settings c generated <:+: narrativeLines settings c name generated :=
  (List.suffix_append _ _).isInfix

/-- The appendix of the narrative report lists every simple formula, and of the other categories as
many formulas from the front as their limits allow for. Its entries are numbered from one, and with
the number in the note they come to the size of the category. The results of a category of an
aggregate stand in the order of the records. -/
theorem appendix_listsFront (hfull : c.isEmpty = false) :
    ∃ text, c.requestNarrative settings name generated = .ok text ∧
      ∃ (entries : Category → List Classified) (omitted : Category → ℕ),
        ShowsLines text (["## Appendix", "", "### Complete Formula Inventory", ""] ++
          Category.all.flatMap (fun category ↦ inventoryBlock category
            (c.byCategory category).length (entries category) (omitted category)) ++
          ["---", "", "*Report generated on " ++ generated.toText ++ "*"]) ∧
        entries .simple = c.byCategory .simple ∧
        ListsFront (c.byCategory .simple) none (entries .simple) (omitted .simple) ∧
        ListsFront (c.byCategory .medium) (some settings.mediumInventoryLimit) (entries .medium)
          (omitted .medium) ∧
        ListsFront (c.byCategory .complex) (some settings.complexInventoryLimit) (entries .complex)
          (omitted .complex) ∧
        ∀ k records, c = Tally.aggregate k records → ∀ category,
          c.byCategory category = (records.map k.classify).filter (·.category = category) := by
  refine ⟨_, unlessEmpty_eq_ok hfull _ _, listed settings c,
    fun category ↦ (c.byCategory category).length - (listed settings c category).length,
    showsLines_narrativeReport ?_, rfl, listsFront_listed settings c .simple,
    listsFront_listed settings c .medium, listsFront_listed settings c .complex, ?_⟩
  · simp only [← inventoryLines_eq]
    exact c.appendixLines_isInfix settings name generated
  · rintro k records rfl category
    rw [Tally.aggregate_eq]
    exact byCategory_ofResults _ category

/-- A corpus of one simple formula and three of medium complexity, one of them with a pipe. -/
def lookups : Corpus :=
  Tally.aggregate .standard
    [{ sheet := "S", cell := "A1", formula := "VLOOKUP(A1,T,2,0)" },
      { sheet := "S", cell := "A2", formula := "B2" },
      { sheet := "R", cell := "C3", formula := "VLOOKUP(\"a|b\",T,2,0)" },
      { sheet := "S", cell := "A4", formula := "VLOOKUP(A4,T,2,0)" }]

/-- By a limit of minus one the last of the three is left out and counted. -/
theorem appendix_listsFront_lookups :
    lookups.isEmpty = false ∧
      ∃ text, lookups.requestNarrative { mediumInventoryLimit := -1 } "model" ⟨⟨2024, 1, 2⟩, {}⟩ =
          .ok text ∧
        ShowsLines text ["#### Medium Formulas (3 total)", "  1. S!A1: `VLOOKUP(A1,T,2,0)`",
          "  2. R!C3: `VLOOKUP(\"a\\|b\",T,2,0)`", "", "*... and 1 more medium formulas*", ""] := by
  have hfull : lookups.isEmpty = false := by decide +kernel
  obtain ⟨text, htext, entries, omitted, hlines, -, -, hmedium, -⟩ :=
    lookups.appendix_listsFront { mediumInventoryLimit := -1 } "model" ⟨⟨2024, 1, 2⟩, {}⟩ hfull
  have hlength : (lookups.byCategory .medium).length = 3 := by decide +kernel
  have htwo : (entries .medium).length = 2 := by
    rw [hmedium.length_entries, hlength]
    rfl
  have homitted : omitted .medium = 1 := by
    have hsum := hmedium.length_add_omitted
    omega
  have hentries : entries .medium = (lookups.byCategory .medium).take 2 := by
    rw [List.prefix_iff_eq_take.mp hmedium.isPrefix, htwo]
  have hblock : inventoryBlock .medium (lookups.byCategory .medium).length (entries .medium)
      (omitted .medium) = ["#### Medium Formulas (3 total)", "  1. S!A1: `VLOOKUP(A1,T,2,0)`",
        "  2. R!C3: `VLOOKUP(\"a\\|b\",T,2,0)`", "", "*... and 1 more medium formulas*", ""] := by
    rw [hentries, homitted]
    decide +kernel
  refine ⟨hfull, text, htext, ?_⟩
  rw [← hblock]
  refine hlines.of_isInfix (List.IsInfix.trans ?_ (List.infix_append _ _ _))
  exact isInfix_flatMap_categories (fun category ↦ inventoryBlock category
    (lookups.byCategory category).length (entries category) (omitted category)) .medium

end Corpus

end FormulaAudit
