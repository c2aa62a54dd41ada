import FormulaAudit.Corpus
import Mathlib.Data.List.Induction
import Mathlib.Data.List.Nodup

/-!
Results under keys. Filing results one at a time, each under its own key, comes to the same groups
as collecting the results of every key at once: over keys that are known from the start
(`file_byKey_of_mem`), and over keys that are met on the way (`file_byKey_eraseDups`), which then
stand in the order of first appearance (`pairwise_idxOf_eraseDups`). Either way the groups together
hold every result once (`flatMap_byKey_perm`).
-/

set_option autoImplicit false

namespace FormulaAudit.Groups

section Appearance

variable {κ : Type} [DecidableEq κ]

theorem eraseDups_concat (keys : List κ) (key : κ) :
    (keys ++ [key]).eraseDups = if key ∈ keys then keys.eraseDups else keys.eraseDups ++ [key] := by
  rw [List.eraseDups_append]
  by_cases hkey : key ∈ keys <;> simp [List.removeAll, List.eraseDups_cons, hkey]

/-- Without repetitions, keys stand in the order in which they appear first. -/
theorem pairwise_idxOf_eraseDups (keys : List κ) :
    keys.eraseDups.Pairwise fun first second ↦ keys.idxOf first < keys.idxOf second := by
  induction keys using List.reverseRecOn with
  | nil => exact List.Pairwise.nil
  | append_singleton keys key ih =>
    have hkeep : ∀ {other : κ}, other ∈ keys.eraseDups →
        (keys ++ [key]).idxOf other = keys.idxOf other := fun hother ↦
      List.idxOf_append_of_mem (List.mem_eraseDups.mp hother)
    have hold : keys.eraseDups.Pairwise fun first second ↦
        (keys ++ [key]).idxOf first < (keys ++ [key]).idxOf second :=
      ih.imp_of_mem fun hfirst hsecond hlt ↦ by rwa [hkeep hfirst, hkeep hsecond]
    rw [eraseDups_concat]
    by_cases hkey : key ∈ keys
    · rw [if_pos hkey]
      exact hold
    · rw [if_neg hkey]
      refine List.pairwise_append.mpr ⟨hold, List.pairwise_singleton _ _, ?_⟩
      intro first hfirst second hsecond
      rw [List.mem_singleton.mp hsecond, hkeep hfirst, List.idxOf_append_of_notMem hkey]
      have hlt := List.idxOf_lt_length_of_mem (List.mem_eraseDups.mp hfirst)
      omega

/-- Keys that stand in the order of some places are all different. -/
theorem nodup_of_pairwise_idxOf {keys places : List κ}
    (hkeys : keys.Pairwise fun first second ↦ places.idxOf first < places.idxOf second) :
    keys.Nodup :=
  hkeys.imp fun hlt heq ↦ by
    rw [heq] at hlt
    exact Nat.lt_irrefl _ hlt

theorem nodup_eraseDups (keys : List κ) : keys.eraseDups.Nodup :=
  nodup_of_pairwise_idxOf (pairwise_idxOf_eraseDups keys)

end Appearance

section Filing

variable {κ : Type} [DecidableEq κ] {keyOf : Classified → κ} {keys : List κ}
  {results : List Classified} {result : Classified}

theorem keys_byKey (keyOf : Classified → κ) (keys : List κ) (results : List Classified) :
    (byKey keyOf keys results).map Prod.fst = keys := by
  rw [byKey, List.map_map]
  exact List.map_id keys

theorem under_cons (key other : κ) (group : List Classified) (groups : Groups κ) :
    under ((other, group) :: groups) key = if key = other then group else under groups key := by
  rw [under, List.lookup_cons]
  by_cases hkey : key = other
  · simp [hkey]
  · rw [if_neg hkey, beq_false_of_ne hkey]
    rfl

theorem under_byKey {key : κ} (hkey : key ∈ keys) :
    (byKey keyOf keys results).under key = results.filter (keyOf · = key) := by
  induction keys with
  | nil => simp at hkey
  | cons other keys ih =>
    rw [byKey, List.map_cons, under_cons]
    by_cases heq : key = other
    · rw [if_pos heq, heq]
    · rw [if_neg heq]
      exact ih ((List.mem_cons.mp hkey).resolve_left heq)

/-- Under keys that are all different, each group is found under its own. -/
theorem under_of_mem {groups : Groups κ} {group : κ × List Classified}
    (hkeys : (groups.map Prod.fst).Nodup) (hgroup : group ∈ groups) :
    groups.under group.1 = group.2 := by
  induction groups with
  | nil => simp at hgroup
  | cons first groups ih =>
    obtain ⟨hfresh, hrest⟩ := List.nodup_cons.mp hkeys
    rw [under_cons]
    rcases List.mem_cons.mp hgroup with rfl | hlater
    · rw [if_pos rfl]
    · have hne : group.1 ≠ first.1 := fun heq ↦ hfresh (heq ▸ List.mem_map_of_mem hlater)
      rw [if_neg hne]
      exact ih hrest hlater

theorem under_of_not_mem {groups : Groups κ} {key : κ} (hkey : key ∉ groups.map Prod.fst) :
    groups.under key = [] := by
  induction groups with
  | nil => rfl
  | cons group groups ih =>
    obtain ⟨hne, hrest⟩ := not_or.mp (mt List.mem_cons.mpr hkey)
    rw [under_cons, if_neg hne]
    exact ih hrest

/-- A result that belongs to none of the keys changes none of their groups. -/
theorem byKey_concat_of_not_mem (hkey : keyOf result ∉ keys) :
    byKey keyOf keys (results ++ [result]) = byKey keyOf keys results := by
  refine List.map_congr_left fun key hmem ↦ ?_
  have hne : keyOf result ≠ key := fun heq ↦ hkey (heq ▸ hmem)
  simp [hne]

theorem file_byKey_of_mem (hnodup : keys.Nodup) (hkey : keyOf result ∈ keys) :
    (byKey keyOf keys results).file (keyOf result) result =
      byKey keyOf keys (results ++ [result]) := by
  induction keys with
  | nil => simp at hkey
  | cons key keys ih =>
    obtain ⟨hfresh, hrest⟩ := List.nodup_cons.mp hnodup
    have hcons : ∀ rs, byKey keyOf (key :: keys) rs =
      (key, rs.filter (keyOf · = key)) :: byKey keyOf keys rs := fun _ ↦ rfl
    rw [hcons, hcons, file]
    by_cases heq : key = keyOf result
    · rw [if_pos heq, byKey_concat_of_not_mem (heq ▸ hfresh)]
      simp [heq]
    · have hmem : keyOf result ∈ keys := (List.mem_cons.mp hkey).resolve_left (Ne.symm heq)
      rw [if_neg heq, ih hrest hmem]
      simp [Ne.symm heq]

/-- A key that is not known opens a group at the end. -/
theorem file_of_not_mem {groups : Groups κ} {key : κ} (hkey : key ∉ groups.map Prod.fst) :
    groups.file key result = groups ++ [(key, [result])] := by
  induction groups with
  | nil => rfl
  | cons group groups ih =>
    obtain ⟨hne, hrest⟩ := not_or.mp (mt List.mem_cons.mpr hkey)
    rw [file, if_neg (Ne.symm hne), ih hrest]
    rfl

theorem file_byKey_of_not_mem (hkey : keyOf result ∉ keys)
    (hnew : ∀ other ∈ results, keyOf other ≠ keyOf result) :
    (byKey keyOf keys results).file (keyOf result) result =
      byKey keyOf (keys ++ [keyOf result]) (results ++ [result]) := by
  have hnone : results.filter (keyOf · = keyOf result) = [] :=
    List.filter_eq_nil_iff.mpr fun other hother ↦ by simp [hnew other hother]
  have hsplit : byKey keyOf (keys ++ [keyOf result]) (results ++ [result]) =
      byKey keyOf keys (results ++ [result]) ++ byKey keyOf [keyOf result] (results ++ [result]) :=
    List.map_append
  rw [file_of_not_mem (by rwa [keys_byKey]), hsplit, byKey_concat_of_not_mem hkey]
  simp [byKey, hnone]

theorem file_byKey_eraseDups (keyOf : Classified → κ) (results : List Classified)
    (result : Classified) :
    (byKey keyOf (results.map keyOf).eraseDups results).file (keyOf result) result =
      byKey keyOf ((results ++ [result]).map keyOf).eraseDups (results ++ [result]) := by
  rw [List.map_append, List.map_singleton, eraseDups_concat]
  by_cases hmet : keyOf result ∈ results.map keyOf
  · rw [if_pos hmet, file_byKey_of_mem (nodup_eraseDups _) (List.mem_eraseDups.mpr hmet)]
  · rw [if_neg hmet, file_byKey_of_not_mem (mt List.mem_eraseDups.mp hmet)]
    exact fun other hother heq ↦ hmet (heq ▸ List.mem_map_of_mem hother)

/-- Groups under different keys that leave no result out hold every result once. -/
theorem flatMap_byKey_perm (hkeys : keys.Nodup) (hall : ∀ r ∈ results, keyOf r ∈ keys) :
    ((byKey keyOf keys results).flatMap Prod.snd).Perm results := by
  induction keys generalizing results with
  | nil =>
    obtain rfl : results = [] :=
      List.eq_nil_iff_forall_not_mem.mpr fun r hr ↦ List.not_mem_nil (hall r hr)
    rfl
  | cons key keys ih =>
    obtain ⟨hfresh, hrest⟩ := List.nodup_cons.mp hkeys
    let others := results.filter fun r ↦ !decide (keyOf r = key)
    have hothers : byKey keyOf keys results = byKey keyOf keys others := by
      refine List.map_congr_left fun other hother ↦ congrArg (Prod.mk other) ?_
      rw [List.filter_filter]
      refine List.filter_congr fun r _ ↦ ?_
      have hne : other ≠ key := fun heq ↦ hfresh (heq ▸ hother)
      by_cases hr : keyOf r = other <;> simp [hr, hne]
    have hmem : ∀ r ∈ others, keyOf r ∈ keys := fun r hr ↦ by
      obtain ⟨hin, hne⟩ := List.mem_filter.mp hr
      exact (List.mem_cons.mp (hall r hin)).resolve_left (by simpa using hne)
    calc ((byKey keyOf (key :: keys) results).flatMap Prod.snd)
        = results.filter (keyOf · = key) ++ (byKey keyOf keys others).flatMap Prod.snd := by
          rw [← hothers]
          rfl
      List.Perm _ (results.filter (keyOf · = key) ++ others) := (ih hrest hmem).append_left _
      List.Perm _ results := List.filter_append_perm _ results

end Filing

end FormulaAudit.Groups
