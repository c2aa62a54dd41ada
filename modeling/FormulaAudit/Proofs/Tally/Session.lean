import FormulaAudit.Proofs.Corpus.Summary
import FormulaAudit.Tally
import Mathlib.Data.List.Infix

/-!
A tally in use. Whatever happens to a tally, and in whatever order, its views stay those of the
corpus of the records gathered since it was last emptied: `Holds` is the invariant, `holds_step`
says that every event keeps it, and `holds_run` that every session has it. A snapshot is therefore
what a fresh tally makes of the same records, and later events leave those already handed out as
they are (`snapshot_of_session`).
-/

set_option autoImplicit false

namespace FormulaAudit

/-! ### Names put in one by one -/

theorem mem_insertName {name other : String} {names : List String} :
    other ∈ insertName name names ↔ other = name ∨ other ∈ names := by
  induction names with
  | nil => exact List.mem_cons
  | cons first names ih =>
    rw [insertName]
    by_cases hlt : name < first
    · rw [if_pos hlt, List.mem_cons]
    · by_cases heq : name = first
      · rw [if_neg hlt, if_pos heq, heq, List.mem_cons, or_self_left]
      · rw [if_neg hlt, if_neg heq, List.mem_cons, ih, List.mem_cons]
        exact or_left_comm

theorem ascending_insertName {names : List String} (hnames : Ascending names) (name : String) :
    Ascending (insertName name names) := by
  induction names with
  | nil => exact List.pairwise_singleton _ _
  | cons first names ih =>
    obtain ⟨hfirst, hrest⟩ := List.pairwise_cons.mp hnames
    rw [insertName]
    by_cases hlt : name < first
    · rw [if_pos hlt]
      refine List.pairwise_cons.mpr ⟨fun other hother ↦ ?_, hnames⟩
      rcases List.mem_cons.mp hother with rfl | hlater
      · exact hlt
      · exact lt_trans hlt (hfirst other hlater)
    · by_cases heq : name = first
      · rw [if_neg hlt, if_pos heq]
        exact hnames
      · rw [if_neg hlt, if_neg heq]
        refine List.pairwise_cons.mpr ⟨fun other hother ↦ ?_, ih hrest⟩
        rcases mem_insertName.mp hother with rfl | hlater
        · exact lt_of_le_of_ne (not_lt.mp hlt) (Ne.symm heq)
        · exact hfirst other hlater

theorem mem_foldl_insertName {other : String} {names more : List String} :
    other ∈ more.foldl (fun names name ↦ insertName name names) names ↔
      other ∈ more ∨ other ∈ names := by
  induction more generalizing names with
  | nil => simp
  | cons name more ih =>
    rw [List.foldl_cons, ih, mem_insertName, List.mem_cons]
    tauto

theorem ascending_foldl_insertName {names : List String} (hnames : Ascending names)
    (more : List String) :
    Ascending (more.foldl (fun names name ↦ insertName name names) names) := by
  induction more generalizing names with
  | nil => exact hnames
  | cons name more ih => exact ih (ascending_insertName hnames name)

/-- Putting in the names that a result calls gives the names of the results so far and of it. -/
theorem foldl_insertName_namesOf (results : List Classified) (result : Classified) :
    result.features.functionNames.foldl (fun names name ↦ insertName name names)
      (Corpus.namesOf results) = Corpus.namesOf (results ++ [result]) := by
  have hascending := ascending_foldl_insertName (Corpus.ascending_namesOf results)
    result.features.functionNames
  refine hascending.eq_of_mem_iff (Corpus.ascending_namesOf _) fun name ↦ ?_
  rw [mem_foldl_insertName, Corpus.mem_namesOf, Corpus.mem_namesOf]
  simp [or_comm, or_and_right, exists_or]

namespace Tally

/-! ### The invariant -/

variable {t : Tally} {k : Classifier} {records : List Record}

/-- The tally holds the corpus of some records, all views of it. -/
structure Holds (t : Tally) (k : Classifier) (records : List Record) : Prop where
  classifier : t.classifier = k
  snapshot : t.snapshot = Corpus.ofRecords k records

theorem holds_empty (k : Classifier) : (empty k).Holds k [] where
  classifier := rfl
  snapshot := by
    rw [Corpus.ofRecords, List.map_nil, Corpus.ofResults, Corpus.namesOf_nil]
    rfl

theorem snapshot_addResult {results : List Classified}
    (ht : t.snapshot = Corpus.ofResults results) (result : Classified) :
    (t.addResult result).snapshot = Corpus.ofResults (results ++ [result]) := by
  have hresults : t.results.reverse = results := congrArg Corpus.results ht
  have hcategories : t.categories = Groups.byKey (·.category) Category.all results :=
    congrArg Corpus.categories ht
  have hbySheet : t.bySheet = Groups.byKey (·.record.sheet) (Corpus.sheetsOf results) results :=
    congrArg Corpus.bySheet ht
  have hnames : t.functionNames = Corpus.namesOf results := congrArg Corpus.functionNames ht
  have hfiled : (Groups.byKey (·.category) Category.all results).file result.category result =
      Groups.byKey (·.category) Category.all (results ++ [result]) :=
    Groups.file_byKey_of_mem (by decide) (Category.mem_all result.category)
  have hsheeted : (Groups.byKey (·.record.sheet) (Corpus.sheetsOf results) results).file
      result.record.sheet result = Groups.byKey (·.record.sheet)
        (Corpus.sheetsOf (results ++ [result])) (results ++ [result]) :=
    Groups.file_byKey_eraseDups (·.record.sheet) results result
  unfold snapshot addResult Corpus.ofResults
  rw [List.reverse_cons, hresults, hcategories, hfiled, hbySheet, hsheeted, hnames,
    foldl_insertName_namesOf]

theorem Holds.add (ht : t.Holds k records) (record : Record) :
    (t.add record).Holds k (records ++ [record]) where
  classifier := ht.classifier
  snapshot := by
    have hadd := snapshot_addResult ht.snapshot (k.classify record)
    rw [Tally.add, ht.classifier, hadd, Corpus.ofRecords, List.map_append, List.map_singleton]

theorem Holds.addAll (ht : t.Holds k records) (more : List Record) :
    (t.addAll more).Holds k (records ++ more) := by
  induction more generalizing t records with
  | nil => rwa [List.append_nil]
  | cons record more ih =>
    have hmore := ih (ht.add record)
    rwa [List.append_assoc] at hmore

theorem Holds.reset (ht : t.Holds k records) : t.reset.Holds k [] := by
  rw [Tally.reset, ht.classifier]
  exact holds_empty k

theorem Holds.size (ht : t.Holds k records) : t.size = records.length := by
  have hresults : t.results.reverse = records.map k.classify := congrArg Corpus.results ht.snapshot
  rw [Tally.size, ← List.length_reverse, hresults, List.length_map]

/-- The corpus that a tally makes of some records is the corpus of the records. -/
theorem aggregate_eq (k : Classifier) (records : List Record) :
    aggregate k records = Corpus.ofRecords k records := ((holds_empty k).addAll records).snapshot

theorem summarizes_aggregate (k : Classifier) (records : List Record) :
    (aggregate k records).Summarizes k records := by
  rw [aggregate_eq]
  exact Corpus.ofRecords_summarizes k records

namespace Session

/-! ### Sessions -/

variable {s : Session}

/-- Every event keeps the tally in step with the records gathered. -/
theorem holds_step (hs : s.tally.Holds k records) (event : Event) :
    (s.step event).tally.Holds k (gather records event) := by
  cases event with
  | add record => exact hs.add record
  | addAll more => exact hs.addAll more
  | reset => exact hs.reset
  | snapshot => exact hs

theorem holds_run (hs : s.tally.Holds k records) (events : List Event) :
    (s.run events).tally.Holds k (events.foldl gather records) := by
  induction events generalizing s records with
  | nil => exact hs
  | cons event events ih => exact ih (holds_step hs event)

theorem holds_start_run (k : Classifier) (events : List Event) :
    ((start k).run events).tally.Holds k (gathered events) := holds_run (holds_empty k) events

theorem run_append (s : Session) (first second : List Event) :
    s.run (first ++ second) = (s.run first).run second := List.foldl_append

/-- No event takes back a snapshot, and a snapshot adds one. -/
theorem taken_step (s : Session) (event : Event) : s.taken <+: (s.step event).taken ∧
    (s.step event).taken.length = s.taken.length + [event].count .snapshot := by
  cases event with
  | snapshot => exact ⟨List.prefix_append _ _, List.length_append⟩
  | add | addAll | reset => exact ⟨List.prefix_refl _, rfl⟩

theorem taken_run (s : Session) (events : List Event) : s.taken <+: (s.run events).taken ∧
    (s.run events).taken.length = s.taken.length + events.count .snapshot := by
  induction events generalizing s with
  | nil => exact ⟨List.prefix_refl _, rfl⟩
  | cons event events ih =>
    obtain ⟨hkept, hlength⟩ := taken_step s event
    obtain ⟨hkept', hlength'⟩ := ih (s.step event)
    have hcount : ([event] ++ events).count .snapshot =
        [event].count .snapshot + events.count .snapshot := List.count_append
    refine ⟨hkept.trans hkept', ?_⟩
    rw [← List.singleton_append, hcount, ← Nat.add_assoc, ← hlength]
    exact hlength'

/-- A snapshot stays at its place among those handed out, whatever happens after it. -/
theorem getElem?_taken_run (k : Classifier) (before after : List Event) :
    ((start k).run (before ++ .snapshot :: after)).taken[before.count .snapshot]? =
      some ((start k).run before).tally.snapshot := by
  have hlength : ((start k).run before).taken.length = before.count .snapshot := by
    rw [(taken_run (start k) before).2, start, List.length_nil, Nat.zero_add]
  obtain ⟨rest, hrest⟩ := (taken_run (((start k).run before).step .snapshot) after).1
  have hfinal : ((start k).run (before ++ .snapshot :: after)).taken =
      ((start k).run before).taken ++ ((start k).run before).tally.snapshot :: rest := by
    rw [run_append, List.append_cons]
    exact hrest.symm
  rw [hfinal, ← hlength, List.getElem?_append_right (Nat.le_refl _), Nat.sub_self]
  rfl

/-- Whatever happened before, a snapshot is the aggregate of the records gathered since the tally
was last emptied; whatever happens after, it stays among those handed out, at its place. -/
theorem snapshot_of_session (k : Classifier) (before after : List Event) :
    ((start k).run before).tally.snapshot = aggregate k (gathered before) ∧
    ((start k).run before).tally.snapshot.Summarizes k (gathered before) ∧
    ((start k).run before).tally.size = (gathered before).length ∧
    ((start k).run (before ++ .snapshot :: after)).taken[before.count .snapshot]? =
      some (aggregate k (gathered before)) := by
  have hholds := holds_start_run k before
  have hsnapshot : ((start k).run before).tally.snapshot = aggregate k (gathered before) := by
    rw [hholds.snapshot, aggregate_eq]
  have hsummary : ((start k).run before).tally.snapshot.Summarizes k (gathered before) := by
    rw [hsnapshot]
    exact summarizes_aggregate k _
  refine ⟨hsnapshot, hsummary, hholds.size, ?_⟩
  rw [getElem?_taken_run, hsnapshot]

end Session

end Tally

end FormulaAudit
