import FormulaAudit.FileSystem
import FormulaAudit.Proofs.Path

/-!
Faults at a NUL character. Whatever is done with a path fails for a NUL character only if the path
holds one (`fault_ne_nulInPath_of_write`, `fault_ne_nulInPath_of_makeDirectories`).
-/

set_option autoImplicit false

namespace FormulaAudit

namespace Path

variable {p q : Path}

theorem hasNul_eq_false_iff :
    p.hasNul = false ↔ ∀ part ∈ p.parts, '\x00' ∉ part.toList := by
  simp [hasNul]

theorem hasNul_join (hp : p.hasNul = false) (hq : q.hasNul = false) :
    (p.join q).hasNul = false := by
  rw [join]
  split
  · rw [hasNul_eq_false_iff] at hp hq ⊢
    intro part hpart
    exact (List.mem_append.mp hpart).elim (hp part) (hq part)
  · exact hq

theorem hasNul_parent (hp : p.hasNul = false) : p.parent.hasNul = false := by
  rw [hasNul_eq_false_iff] at hp ⊢
  exact fun part hpart ↦ hp part (List.dropLast_subset _ hpart)

theorem mem_of_mem_splitOn {separator c : Char} {cs piece : List Char}
    (hpiece : piece ∈ splitOn separator cs) (hc : c ∈ piece) : c ∈ cs := by
  induction cs generalizing piece with
  | nil =>
    obtain rfl := List.mem_singleton.mp hpiece
    exact hc
  | cons d cs ih =>
    rw [splitOn] at hpiece
    split at hpiece
    case h_1 hsplit =>
      obtain rfl := List.mem_singleton.mp hpiece
      exact List.mem_cons.mpr (.inl (List.mem_singleton.mp hc))
    case h_2 first pieces hsplit =>
      rw [hsplit] at ih
      by_cases hseparator : d = separator
      · rw [if_pos hseparator] at hpiece
        rcases List.mem_cons.mp hpiece with rfl | hpiece
        · cases hc
        · exact List.mem_cons_of_mem _ (ih hpiece hc)
      · rw [if_neg hseparator] at hpiece
        rcases List.mem_cons.mp hpiece with rfl | hpiece
        · exact (List.mem_cons.mp hc).elim (fun heq ↦ heq ▸ List.mem_cons_self)
            fun hfirst ↦ List.mem_cons_of_mem _ (ih List.mem_cons_self hfirst)
        · exact List.mem_cons_of_mem _ (ih (List.mem_cons_of_mem _ hpiece) hc)

theorem hasNul_ofString {text : String} (h : '\x00' ∉ text.toList) :
    (ofString text).hasNul = false := by
  rw [hasNul_eq_false_iff]
  intro part hpart hnul
  obtain ⟨hpart, -⟩ := List.mem_filter.mp hpart
  obtain ⟨piece, hpiece, rfl⟩ := List.mem_map.mp hpart
  rw [String.toList_ofList] at hnul
  exact h (mem_of_mem_splitOn hpiece hnul)

end Path

namespace FileSystem

variable {fs : FileSystem} {place : Place} {path : Path} {e : FileError}

theorem walk_ne_nulInPath {names : List String} : fs.walk place names ≠ .error .nulInPath := by
  induction names generalizing place with
  | nil => exact nofun
  | cons name names ih =>
    rw [walk]
    split
    case h_1 =>
      split
      · exact nofun
      · exact ih
    case h_2 | h_3 => exact nofun

theorem locate_ne_nulInPath (hpath : path.hasNul = false) :
    fs.locate path ≠ .error .nulInPath := by
  rw [locate, hpath, if_neg Bool.false_ne_true]
  split
  · exact nofun
  · exact walk_ne_nulInPath

theorem fault_ne_nulInPath_of_write (hpath : path.hasNul = false) {text : String}
    (h : fs.write path text = .error e) : e.fault ≠ .nulInPath := by
  rw [write] at h
  split at h
  case h_1 fault hlocate =>
    cases h
    rintro rfl
    exact locate_ne_nulInPath hpath hlocate
  case h_2 =>
    split at h
    · cases h
      exact nofun
    · cases h

theorem fault_ne_nulInPath_of_makeDirectory (hpath : path.hasNul = false)
    (h : fs.makeDirectory path = .error e) : e.fault ≠ .nulInPath := by
  rw [makeDirectory] at h
  split at h
  case h_1 fault hlocate =>
    cases h
    rintro rfl
    exact locate_ne_nulInPath hpath hlocate
  case h_2 =>
    split at h
    · cases h
      exact nofun
    · cases h

theorem fault_ne_nulInPath_of_allowDirectory (hpath : path.hasNul = false) {fault : FileError}
    (hmade : fs.makeDirectory path = .error fault) (h : fs.allowDirectory path fault = some e) :
    e.fault ≠ .nulInPath := by
  rw [allowDirectory] at h
  split at h
  · cases h
  · cases h
    exact fault_ne_nulInPath_of_makeDirectory hpath hmade

theorem fault_ne_nulInPath_of_makeDirectories (hpath : path.hasNul = false)
    (h : (fs.makeDirectories path).2 = some e) : e.fault ≠ .nulInPath := by
  fun_induction makeDirectories fs path with
  | case1 => cases h
  | case2 path _ _ _ _ above _ habove ih =>
    rw [habove] at ih
    exact ih (Path.hasNul_parent hpath) h
  | case3 => cases h
  | case4 path _ _ _ _ _ _ _ hmade => exact fault_ne_nulInPath_of_allowDirectory hpath hmade h
  | case5 path _ hmade => exact fault_ne_nulInPath_of_allowDirectory hpath hmade h

theorem fault_ne_nulInPath_of_look (h : fs.look path = .error e) : e.fault ≠ .nulInPath := by
  rw [look] at h
  split at h <;> cases h
  exact nofun

end FileSystem

end FormulaAudit
