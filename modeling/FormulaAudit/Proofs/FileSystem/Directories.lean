import FormulaAudit.Proofs.FileSystem.Writing

/-!
Where directories are made. New directories leave paths leading where they led before
(`Extends.locate`), and to make the directories of a path makes nothing but directories, each where
nothing was and at a place that a front part of the path leads to (`makesWay_makeDirectories`).
-/

set_option autoImplicit false

namespace FormulaAudit.FileSystem

variable {fs middle after : FileSystem} {place : Place} {path : Path}

/-! ### Directories that are added -/

/-- No directory is gone. -/
def Extends (fs after : FileSystem) : Prop :=
  after.here = fs.here ∧
    ∀ place, fs.node? place = some .directory → after.node? place = some .directory

theorem Extends.walk (h : Extends fs after) {target : Place} {names : List String}
    (hwalk : fs.walk place names = .ok target) : after.walk place names = .ok target := by
  induction names generalizing place with
  | nil => exact hwalk
  | cons name names ih =>
    obtain ⟨hplace, hlength, hrest⟩ := walk_cons_eq_ok.mp hwalk
    exact walk_cons_eq_ok.mpr ⟨h.2 place hplace, hlength, ih hrest⟩

theorem locate_eq_ok {target : Place} : fs.locate path = .ok target ↔
    path.hasNul = false ∧ path.toString.utf8ByteSize ≤ pathLimit ∧
      fs.walk (fs.start path) path.parts = .ok target := by
  rw [locate]
  by_cases hnul : path.hasNul = true
  · simp [hnul]
  · rw [if_neg hnul]
    by_cases hlong : pathLimit < path.toString.utf8ByteSize
    · rw [if_pos hlong]
      simp [Nat.not_le.mpr hlong]
    · rw [if_neg hlong]
      simp [Bool.eq_false_iff.mpr hnul, Nat.not_lt.mp hlong]

/-- A path that leads to a place still leads there. -/
theorem Extends.locate (h : Extends fs after) {target : Place}
    (hlocate : fs.locate path = .ok target) : after.locate path = .ok target := by
  obtain ⟨hnul, hshort, hwalk⟩ := locate_eq_ok.mp hlocate
  have hstart : after.start path = fs.start path := by rw [start, start, h.1]
  exact locate_eq_ok.mpr ⟨hnul, hshort, hstart ▸ h.walk hwalk⟩

/-! ### Making directories -/

/-- Nothing has changed but for directories where nothing was, each at a place that a front part of
the path leads to. -/
structure MakesWay (fs after : FileSystem) (path : Path) : Prop where
  here : after.here = fs.here
  node? (place : Place) : after.node? place = fs.node? place ∨
    fs.node? place = none ∧ after.node? place = some .directory ∧
      ∃ front, front <+: path.parts ∧ after.locate { path with parts := front } = .ok place

theorem MakesWay.refl (fs : FileSystem) (path : Path) : MakesWay fs fs path :=
  ⟨rfl, fun _ ↦ .inl rfl⟩

theorem MakesWay.extends (h : MakesWay fs after path) : Extends fs after := by
  refine ⟨h.here, fun place hplace ↦ ?_⟩
  rcases h.node? place with hsame | ⟨hnone, -⟩
  · exact hsame.trans hplace
  · cases hplace.symm.trans hnone

/-- The way to the directory above is a part of the way. -/
theorem MakesWay.of_parent (h : MakesWay fs after path.parent) : MakesWay fs after path := by
  refine ⟨h.here, fun place ↦ (h.node? place).imp_right ?_⟩
  rintro ⟨hnone, hdirectory, front, hfront, hlocate⟩
  exact ⟨hnone, hdirectory, front, hfront.trans (List.dropLast_prefix _), hlocate⟩

theorem makesWay_makeDirectory (hmade : fs.makeDirectory path = .ok after) :
    MakesWay fs after path := by
  rw [makeDirectory] at hmade
  split at hmade
  case h_1 => cases hmade
  case h_2 target hlocate =>
    split at hmade
    case h_1 => cases hmade
    case h_2 hnone =>
      cases hmade
      have hfree : fs.node? target ≠ some .directory := by simp [hnone]
      have hnode (place : Place) : (fs.put target .directory).node? place =
          if place = target then some .directory else fs.node? place :=
        node?_put (ne_root hfree) .directory place
      have hextends : Extends fs (fs.put target .directory) := by
        refine ⟨rfl, fun place hplace ↦ ?_⟩
        rw [hnode]
        split <;> simp [hplace]
      refine ⟨rfl, fun place ↦ ?_⟩
      by_cases heq : place = target
      · subst heq
        exact .inr ⟨hnone, by rw [hnode, if_pos rfl], path.parts, List.prefix_refl _,
          hextends.locate hlocate⟩
      · exact .inl (by rw [hnode, if_neg heq])

theorem MakesWay.trans (hfirst : MakesWay fs middle path) (hlast : MakesWay middle after path) :
    MakesWay fs after path := by
  refine ⟨hlast.here.trans hfirst.here, fun place ↦ ?_⟩
  rcases hlast.node? place with hsame | ⟨hnone, hmade⟩
  · rw [hsame]
    refine (hfirst.node? place).imp_right ?_
    rintro ⟨hnone, hdirectory, front, hfront, hlocate⟩
    exact ⟨hnone, hdirectory, front, hfront, hlast.extends.locate hlocate⟩
  · refine .inr ⟨?_, hmade⟩
    rcases hfirst.node? place with hsame | ⟨hbefore, -⟩
    · exact hsame.symm.trans hnone
    · exact hbefore

theorem makesWay_makeDirectories (fs : FileSystem) (path : Path) :
    MakesWay fs (fs.makeDirectories path).1 path := by
  fun_induction makeDirectories fs path with
  | case1 path made hmade => exact makesWay_makeDirectory hmade
  | case2 path _ _ _ _ above _ habove ih =>
    rw [habove] at ih
    exact ih.of_parent
  | case3 path _ _ _ _ above habove made hmade ih =>
    rw [habove] at ih
    exact ih.of_parent.trans (makesWay_makeDirectory hmade)
  | case4 path _ _ _ _ above habove _ _ ih =>
    rw [habove] at ih
    exact ih.of_parent
  | case5 path => exact .refl fs path

end FormulaAudit.FileSystem
