import FormulaAudit.Path

/-!
Paths of a single part. A text with no slash in it that is neither empty nor made of one or two dots
is a name, and read as a path it is the path of that one part (`ofString_of_isPlain`).
-/

set_option autoImplicit false

namespace FormulaAudit.Path

/-- The name of a file in a directory. -/
def IsPlain (name : String) : Prop := name ∉ ["", ".", ".."] ∧ '/' ∉ name.toList

theorem splitOn_of_not_mem {separator : Char} {cs : List Char} (h : separator ∉ cs) :
    splitOn separator cs = [cs] := by
  induction cs with
  | nil => rfl
  | cons c cs ih =>
    obtain ⟨hne, hrest⟩ := not_or.mp (mt List.mem_cons.mpr h)
    rw [splitOn, ih hrest]
    exact if_neg (Ne.symm hne)

theorem anchorOf_of_not_mem {cs : List Char} (h : '/' ∉ cs) : anchorOf cs = .here := by
  unfold anchorOf
  split
  case h_4 => rfl
  all_goals exact absurd List.mem_cons_self h

theorem ofString_of_isPlain {name : String} (h : IsPlain name) :
    ofString name = { anchor := .here, parts := [name] } := by
  obtain ⟨hdots, hslash⟩ := h
  simp only [List.mem_cons, List.not_mem_nil, or_false, not_or] at hdots
  rw [ofString, splitOn_of_not_mem hslash, anchorOf_of_not_mem hslash]
  simp [hdots]

end FormulaAudit.Path
