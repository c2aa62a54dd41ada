import FormulaAudit.Proofs.Report.Lines

/-!
Samples of the categories, in the summary and in the tables of examples. Both reports list the same
excerpt of a category and print under it the same number of what they leave out
(`samples_addUp_iff`). The excerpt and the number go by the limit each in its own way. A limit that
is not negative accounts for every formula; a negative one leaves formulas out at the end of the list
but has the number exceed the size of the category, so that together they never come to it, and a
category without formulas is said to have more (`sample_exceeds_category`).
-/

set_option autoImplicit false

namespace FormulaAudit

namespace Report

/-- What a report shows of some results: those that it lists, and the number that a note under them
prints, if there is a note. -/
structure Sample where
  listed : List Classified
  note : Option ℤ

namespace Sample

def ofLimit (limit : ℤ) (results : List Classified) : Sample where
  listed := excerpt limit results
  note := leftOut limit results.length

/-- The sample in the summary: a numbered line for each result, and the note. -/
def summaryLines (s : Sample) : List String :=
  s.listed.mapIdx (fun i r ↦ sampleLine (i + 1) r) ++
    (s.note.map fun n ↦ "  ... and " ++ toString n ++ " more").toList

/-- The sample in the narrative report: a row for each result, and the note as a row. -/
def exampleRows (previewLimit : ℤ) (s : Sample) : List String :=
  s.listed.map (exampleLine previewLimit) ++
    (s.note.map exampleNote).toList

/-- What is listed and the number in the note, zero without a note, come to all results. -/
def AddsUp (s : Sample) (results : List Classified) : Prop :=
  s.listed.length + s.note.getD 0 = results.length

/-- There is a note exactly if something is left out. -/
def NotesOmission (s : Sample) (results : List Classified) : Prop :=
  s.note.isSome = true ↔ s.listed.length < results.length

variable {limit : ℤ} {results : List Classified}

theorem listed_prefix (limit : ℤ) (results : List Classified) :
    (ofLimit limit results).listed <+: results := excerpt_prefix limit results

theorem listed_of_nonneg (hlimit : 0 ≤ limit) (results : List Classified) :
    (ofLimit limit results).listed = results.take limit.toNat := excerpt_of_nonneg hlimit results

theorem addsUp_iff : (ofLimit limit results).AddsUp results ↔ 0 ≤ limit := by
  unfold AddsUp ofLimit
  rw [length_excerpt, excerptLength, leftOut]
  by_cases hsign : 0 ≤ limit
  · rw [if_pos hsign, iff_true_right hsign]
    by_cases hmore : limit < results.length
    · rw [if_pos hmore, Option.getD_some]
      omega
    · rw [if_neg hmore, Option.getD_none]
      omega
  · rw [if_neg hsign, iff_false_right hsign, if_pos (by omega), Option.getD_some]
    omega

theorem notesOmission_iff :
    (ofLimit limit results).NotesOmission results ↔ 0 ≤ limit ∨ results ≠ [] := by
  unfold NotesOmission ofLimit
  rw [length_excerpt, excerptLength, leftOut, ← List.length_pos_iff]
  by_cases hsign : 0 ≤ limit
  · rw [if_pos hsign, iff_true_right (Or.inl hsign)]
    by_cases hmore : limit < results.length
    · rw [if_pos hmore, Option.isSome_some, iff_true_left rfl]
      omega
    · rw [if_neg hmore, Option.isSome_none, iff_false_left (by decide)]
      omega
  · rw [if_neg hsign, if_pos (by omega), Option.isSome_some, iff_true_left rfl]
    omega

end Sample

end Report

namespace Corpus

open Report

variable (c : Corpus) (settings : Settings) (name : String) (generated : Moment)

/-- Of parts that each open with an empty line, followed by another empty line, each has an empty line
behind it. -/
theorem isInfix_flatMap_of_opened {α : Type} {part rest : α → List String} {items : List α}
    (hpart : ∀ a, part a = "" :: rest a) {a : α} (ha : a ∈ items) (after : List String) :
    rest a ++ [""] <:+: items.flatMap part ++ "" :: after := by
  obtain ⟨front, back, rfl⟩ := List.append_of_mem ha
  -- The empty line behind the part opens the next one, or what follows all of them.
  obtain ⟨more, hmore⟩ : ∃ more, back.flatMap part ++ "" :: after = "" :: more := by
    cases back with
    | nil => exact ⟨after, rfl⟩
    | cons b back =>
      rw [List.flatMap_cons, hpart b]
      exact ⟨_, rfl⟩
  refine ⟨front.flatMap part ++ [""], more, ?_⟩
  rw [List.flatMap_append, List.flatMap_cons, hpart a, List.append_assoc _ _ ("" :: after),
    List.append_assoc _ _ ("" :: after), hmore]
  simp

/-- The line that opens the sample of a category in the summary. -/
def sampleTitle (category : Category) : String :=
  category.name ++ (" FORMULAS (" ++ toString (c.byCategory category).length ++ " total):")

/-- The line that opens the part of the narrative report on a category. -/
def examplesTitle (category : Category) : String :=
  "#### " ++ categoryMark category ++ " " ++ category.label ++ " Formulas ("
    ++ toString (c.byCategory category).length ++ " formulas - "
    ++ shareText (c.percentage category) ++ ")"

theorem categorySample_eq (limit : ℤ) (category : Category) :
    categorySample limit c category = "" :: c.sampleTitle category ::
      (Sample.ofLimit limit (c.byCategory category)).summaryLines := by
  rw [categorySample, map_numbered]
  rfl

/-- The sample of a category stands in the summary, with an empty line behind it. -/
theorem sample_isInfix_summaryLines (limit : ℤ) (category : Category) :
    c.sampleTitle category :: (Sample.ofLimit limit (c.byCategory category)).summaryLines ++ [""] <:+:
      summaryLines limit c := by
  have hsamples : Category.all.flatMap (categorySample limit c) ++
      ["", "MIGRATION RECOMMENDATIONS", ruler '-' 40] <:+: summaryLines limit c := by
    rw [summaryLines, List.append_assoc _ (Category.all.flatMap (categorySample limit c))]
    exact (List.infix_append _ _ _).trans (List.prefix_append _ _).isInfix
  exact (isInfix_flatMap_of_opened (c.categorySample_eq limit) (Category.mem_all category)
    ["MIGRATION RECOMMENDATIONS", ruler '-' 40]).trans hsamples

/-- The rows of a category stand in the narrative report under the headings of the table, with an
empty line behind them. -/
theorem examples_isInfix_narrativeLines (category : Category) : ∃ opening,
    c.examplesTitle category :: opening ++ exampleHeadings ++
      (Sample.ofLimit settings.sampleLimit (c.byCategory category)).exampleRows settings.previewLimit
      ++ [""] <:+: narrativeLines settings c name generated := by
  have hlines : categoryLines settings c category =
      c.examplesTitle category :: (["", "**Characteristics:**"]
        ++ (characteristics category).map ("- " ++ ·)
        ++ ["", "**Migration Effort**: " ++ categoryEffort category, "", "**Examples:**", ""])
      ++ exampleHeadings
      ++ (Sample.ofLimit settings.sampleLimit (c.byCategory category)).exampleRows
        settings.previewLimit ++ [""] := by
    simp only [categoryLines, exampleHeadings, List.append_assoc, List.cons_append, List.nil_append]
    rfl
  exact ⟨_, hlines ▸ categoryLines_isInfix c settings name generated category⟩

/-- The summary and the narrative report show one sample of each category: under its title stand the
results from the front of the category, as many as the limit, and the note. What they list and what
they say they leave out come to the size of the category exactly if the limit is not negative. -/
theorem samples_addUp_iff (hfull : c.isEmpty = false) :
    ∃ summary narrative, c.requestSummary settings.sampleLimit = .ok summary ∧
      c.requestNarrative settings name generated = .ok narrative ∧
      ∀ category,
        let results := c.byCategory category
        let sample := Sample.ofLimit settings.sampleLimit results
        ShowsLines summary (c.sampleTitle category :: sample.summaryLines ++ [""]) ∧
        (∃ opening, ShowsLines narrative (c.examplesTitle category :: opening ++ exampleHeadings ++
          sample.exampleRows settings.previewLimit ++ [""])) ∧
        sample.listed <+: results ∧
        (0 ≤ settings.sampleLimit → sample.listed = results.take settings.sampleLimit.toNat) ∧
        (sample.AddsUp results ↔ 0 ≤ settings.sampleLimit) ∧
        (sample.NotesOmission results ↔ 0 ≤ settings.sampleLimit ∨ results ≠ []) := by
  refine ⟨_, _, unlessEmpty_eq_ok hfull _ _, unlessEmpty_eq_ok hfull _ _, fun category ↦ ?_⟩
  intro results sample
  obtain ⟨opening, hrows⟩ := c.examples_isInfix_narrativeLines settings name generated category
  exact ⟨showsLines_summaryReport (c.sample_isInfix_summaryLines _ category),
    ⟨opening, showsLines_narrativeReport hrows⟩, Sample.listed_prefix _ _,
    fun hlimit ↦ Sample.listed_of_nonneg hlimit _, Sample.addsUp_iff, Sample.notesOmission_iff⟩

/-- A corpus of three simple formulas. -/
def threeSimple : Corpus :=
  Tally.aggregate .standard
    [{ sheet := "S", cell := "A1", formula := "B1" }, { sheet := "S", cell := "A2", formula := "B2" },
      { sheet := "S", cell := "A3", formula := "B3" }]

/-- Two of the three are listed, and the note has one more. -/
theorem samples_addUp_iff_three :
    threeSimple.isEmpty = false ∧ ∃ summary, threeSimple.requestSummary 2 = .ok summary ∧
      ShowsLines summary ["SIMPLE FORMULAS (3 total):", "  1. S!A1: B1", "  2. S!A2: B2",
        "  ... and 1 more", ""] ∧
      (Sample.ofLimit 2 (threeSimple.byCategory .simple)).AddsUp
        (threeSimple.byCategory .simple) := by
  have hfull : threeSimple.isEmpty = false := by decide +kernel
  obtain ⟨summary, narrative, hsummary, -, hsamples⟩ :=
    threeSimple.samples_addUp_iff { sampleLimit := 2 } "model" ⟨⟨2024, 1, 2⟩, {}⟩ hfull
  obtain ⟨hlines, -, -, -, hadds, -⟩ := hsamples .simple
  have htitle : threeSimple.sampleTitle .simple ::
      (Sample.ofLimit 2 (threeSimple.byCategory .simple)).summaryLines ++ [""] =
        ["SIMPLE FORMULAS (3 total):", "  1. S!A1: B1", "  2. S!A2: B2", "  ... and 1 more", ""] := by
    decide +kernel
  exact ⟨hfull, summary, hsummary, htitle ▸ hlines, hadds.mpr (by decide)⟩

/-- By a limit of minus one the last formula is left out and counted beyond the size of the category,
and a category without formulas has one more. -/
theorem sample_exceeds_category :
    categorySample (-1) threeSimple .simple =
        ["", "SIMPLE FORMULAS (3 total):", "  1. S!A1: B1", "  2. S!A2: B2", "  ... and 4 more"] ∧
      categorySample (-1) threeSimple .medium =
        ["", "MEDIUM FORMULAS (0 total):", "  ... and 1 more"] ∧
      exampleLines { sampleLimit := -1 } (threeSimple.byCategory .simple) =
        ["| S | A1 | `B1` |", "| S | A2 | `B2` |", "| ... | ... | *4 more formulas* |"] ∧
      ¬ (Sample.ofLimit (-1) (threeSimple.byCategory .simple)).AddsUp
        (threeSimple.byCategory .simple) ∧
      ¬ (Sample.ofLimit (-1) (threeSimple.byCategory .medium)).NotesOmission
        (threeSimple.byCategory .medium) := by
  have hnone : threeSimple.byCategory .medium = [] := by
    rw [← List.isEmpty_iff]
    decide +kernel
  refine ⟨by decide +kernel, by decide +kernel, by decide +kernel, ?_, ?_⟩
  · rw [Sample.addsUp_iff]
    decide
  · rw [Sample.notesOmission_iff, hnone]
    decide

end Corpus

end FormulaAudit
