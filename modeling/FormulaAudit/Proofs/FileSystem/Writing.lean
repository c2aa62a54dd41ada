import FormulaAudit.FileSystem
import FormulaAudit.Proofs.Path
import Mathlib.Data.List.Basic

/-!
What writing does to a file system. A text goes to one place and nothing else changes, and where
paths lead is settled by the directories alone, so it does not change either
(`SameDirectories.locate`). Making directories makes no file and changes none
(`sameFiles_makeDirectories`).
-/

set_option autoImplicit false

namespace FormulaAudit.FileSystem

variable {fs after : FileSystem} {place other : Place}

/-- The two hold the same files, with the same content at the same places. -/
def SameFiles (fs after : FileSystem) : Prop :=
  ∀ place content, after.node? place = some (.file content) ↔ fs.node? place = some (.file content)

theorem SameFiles.refl (fs : FileSystem) : SameFiles fs fs := fun _ _ ↦ Iff.rfl

theorem SameFiles.trans {middle : FileSystem} (hfirst : SameFiles fs middle)
    (hlast : SameFiles middle after) : SameFiles fs after := fun place content ↦
  (hlast place content).trans (hfirst place content)

/-! ### Putting something at a place -/

theorem lookup_filter_ne {place other : Place} (hne : other ≠ place) (nodes : List (Place × Node)) :
    (nodes.filter (·.1 ≠ place)).lookup other = nodes.lookup other := by
  induction nodes with
  | nil => rfl
  | cons entry nodes ih =>
    by_cases hentry : entry.1 = place
    · rw [List.filter_cons_of_neg (by simpa using hentry), ih, List.lookup_cons,
        beq_false_of_ne (hentry ▸ hne)]
    · rw [List.filter_cons_of_pos (by simpa using hentry), List.lookup_cons, List.lookup_cons, ih]

theorem node?_put (hplace : place ≠ []) (node : Node) (other : Place) :
    (fs.put place node).node? other = if other = place then some node else fs.node? other := by
  by_cases heq : other = place
  · subst heq
    rw [if_pos rfl, node?, if_neg hplace, put, List.lookup_cons_self]
  · rw [if_neg heq, node?, node?, put, List.lookup_cons, beq_false_of_ne heq,
      lookup_filter_ne heq]

theorem ne_root (hplace : fs.node? place ≠ some .directory) : place ≠ [] := by
  rintro rfl
  exact hplace rfl

/-- A directory where nothing was is no matter to the files. -/
theorem sameFiles_put_directory (hplace : fs.node? place = none) :
    SameFiles fs (fs.put place .directory) := by
  intro other content
  have hfree : fs.node? place ≠ some .directory := by simp [hplace]
  rw [node?_put (ne_root hfree)]
  by_cases heq : other = place
  · simp [heq, hplace]
  · rw [if_neg heq]

/-! ### Where paths lead -/

/-- The two have the same directories. -/
def SameDirectories (fs after : FileSystem) : Prop :=
  after.here = fs.here ∧
    ∀ place, after.node? place = some .directory ↔ fs.node? place = some .directory

theorem SameDirectories.trans {middle : FileSystem} (hfirst : SameDirectories fs middle)
    (hlast : SameDirectories middle after) : SameDirectories fs after :=
  ⟨hlast.1.trans hfirst.1, fun place ↦ (hlast.2 place).trans (hfirst.2 place)⟩

theorem sameDirectories_put_file (hplace : fs.node? place ≠ some .directory)
    (content : FileContent) : SameDirectories fs (fs.put place (.file content)) := by
  refine ⟨rfl, fun other ↦ ?_⟩
  rw [node?_put (ne_root hplace)]
  by_cases heq : other = place
  · simp [heq, hplace]
  · rw [if_neg heq]

theorem walk_cons_eq_ok {name : String} {names : List String} {target : Place} :
    fs.walk place (name :: names) = .ok target ↔ fs.node? place = some .directory ∧
      name.utf8ByteSize ≤ nameLimit ∧
        fs.walk (if name = ".." then place.dropLast else place ++ [name]) names = .ok target := by
  rw [walk]
  split
  case h_1 hnode =>
    by_cases hlong : nameLimit < name.utf8ByteSize
    · rw [if_pos hlong]
      exact ⟨nofun, fun ⟨_, hshort, _⟩ ↦ absurd hlong (Nat.not_lt.mpr hshort)⟩
    · rw [if_neg hlong]
      exact ⟨fun h ↦ ⟨hnode, Nat.not_lt.mp hlong, h⟩, fun ⟨_, _, h⟩ ↦ h⟩
  case h_2 hnode => exact ⟨nofun, fun ⟨hdirectory, _⟩ ↦ by simp [hnode] at hdirectory⟩
  case h_3 hnode => exact ⟨nofun, fun ⟨hdirectory, _⟩ ↦ by simp [hnode] at hdirectory⟩

theorem SameDirectories.walk (h : SameDirectories fs after) {target : Place} {names : List String} :
    after.walk place names = .ok target ↔ fs.walk place names = .ok target := by
  induction names generalizing place with
  | nil => rfl
  | cons name names ih => rw [walk_cons_eq_ok, walk_cons_eq_ok, h.2, ih]

theorem SameDirectories.locate (h : SameDirectories fs after) {path : Path} {target : Place} :
    after.locate path = .ok target ↔ fs.locate path = .ok target := by
  have hstart : after.start path = fs.start path := by rw [start, start, h.1]
  rw [FileSystem.locate, FileSystem.locate, hstart]
  split
  · rfl
  · split
    · rfl
    · exact h.walk

/-- A text can be written at the path, and goes to the place. -/
def Takes (fs : FileSystem) (path : Path) (place : Place) : Prop :=
  fs.locate path = .ok place ∧ fs.node? place ≠ some .directory

theorem SameDirectories.takes (h : SameDirectories fs after) {path : Path} :
    after.Takes path place ↔ fs.Takes path place :=
  and_congr h.locate (not_congr (h.2 place))

theorem walk_append_eq_ok {names more : List String} {target : Place} :
    fs.walk place (names ++ more) = .ok target ↔
      ∃ middle, fs.walk place names = .ok middle ∧ fs.walk middle more = .ok target := by
  induction names generalizing place with
  | nil => exact ⟨fun h ↦ ⟨place, rfl, h⟩, fun ⟨_, hmiddle, h⟩ ↦ by cases hmiddle; exact h⟩
  | cons name names ih =>
    rw [List.cons_append, walk_cons_eq_ok, ih]
    simp only [walk_cons_eq_ok, ← exists_and_left, and_assoc]

/-- A plain name names the place that it leads to. -/
theorem Takes.getLast?_eq {directory : Path} {name : String} (hname : Path.IsPlain name)
    (h : fs.Takes (directory.join (.ofString name)) place) : place.getLast? = some name := by
  obtain ⟨hlocate, -⟩ := h
  rw [Path.ofString_of_isPlain hname, Path.join, if_pos rfl, locate] at hlocate
  split at hlocate
  · cases hlocate
  · split at hlocate
    · cases hlocate
    · obtain ⟨middle, -, hlast⟩ := walk_append_eq_ok.mp hlocate
      obtain ⟨-, -, hplace⟩ := walk_cons_eq_ok.mp hlast
      rw [if_neg (fun heq ↦ hname.1 (by simp [heq]))] at hplace
      cases hplace
      exact List.getLast?_concat

/-! ### Writing -/

theorem write_eq_ok {path : Path} {text : String} :
    fs.write path text = .ok after ↔
      ∃ place, fs.Takes path place ∧ after = fs.put place (.file (.text text)) := by
  rw [write]
  constructor
  · intro h
    split at h
    case h_1 => cases h
    case h_2 place hlocate =>
      split at h
      case h_1 => cases h
      case h_2 hnode =>
        refine ⟨place, ⟨hlocate, hnode⟩, ?_⟩
        cases h
        rfl
  · rintro ⟨place, ⟨hlocate, hnode⟩, rfl⟩
    simp only [hlocate]

/-! ### Making directories -/

theorem sameFiles_makeDirectory {path : Path} (h : fs.makeDirectory path = .ok after) :
    SameFiles fs after := by
  rw [makeDirectory] at h
  split at h
  case h_1 => cases h
  case h_2 place hlocate =>
    split at h
    case h_1 => cases h
    case h_2 hnode =>
      cases h
      exact sameFiles_put_directory hnode

theorem sameFiles_makeDirectories (fs : FileSystem) (path : Path) :
    SameFiles fs (fs.makeDirectories path).1 := by
  fun_induction makeDirectories fs path with
  | case1 path made hmade => exact sameFiles_makeDirectory hmade
  | case2 path _ _ _ _ above _ habove ih => rwa [habove] at ih
  | case3 path _ _ _ _ above habove made hmade ih =>
    rw [habove] at ih
    exact ih.trans (sameFiles_makeDirectory hmade)
  | case4 path _ _ _ _ above habove _ _ ih => rwa [habove] at ih
  | case5 => exact .refl fs

end FormulaAudit.FileSystem
