import FormulaAudit.Workbook.Title
import Mathlib.Data.List.Induction
import Mathlib.Data.List.Nodup

/-!
Titles of sheets. Each name gets one title, and names that differ by more than letter case are their
own titles (`titlesOf_eq`). Names that differ by letter case alone are numbered, and a number may
make a title that an earlier sheet has already.
-/

set_option autoImplicit false

namespace FormulaAudit.Workbook

theorem titlesOf_concat (names : List String) (name : String) :
    titlesOf (names ++ [name]) = titlesOf names ++ [titleBeside (titlesOf names) name] := by
  rw [titlesOf, List.foldl_append]
  rfl

theorem length_titlesOf (names : List String) : (titlesOf names).length = names.length := by
  induction names using List.reverseRecOn with
  | nil => rfl
  | append_singleton names name ih =>
    rw [titlesOf_concat, List.length_append, List.length_append, ih, List.length_singleton,
      List.length_singleton]

theorem titleBeside_eq {taken : List String} {name : String} (hname : name ≠ "")
    (hnew : Text.lowercaseText name ∉ taken.map Text.lowercaseText) :
    titleBeside taken name = name := by
  have hfree : ¬ taken.any
      (fun title ↦ Text.lowercaseText title = Text.lowercaseText name) = true := by
    simpa using hnew
  rw [titleBeside, if_neg hname]
  exact if_neg hfree

/-- Names that differ by more than letter case are titles. -/
theorem titlesOf_eq {names : List String} (hempty : "" ∉ names)
    (hnames : (names.map Text.lowercaseText).Nodup) : titlesOf names = names := by
  induction names using List.reverseRecOn with
  | nil => rfl
  | append_singleton names name ih =>
    rw [List.map_append, List.map_singleton, List.nodup_append] at hnames
    obtain ⟨hbefore, -, hnew⟩ := hnames
    obtain ⟨hempty, hname⟩ := not_or.mp (mt List.mem_append.mpr hempty)
    rw [titlesOf_concat, ih hempty hbefore, titleBeside_eq]
    · exact fun heq ↦ hname (List.mem_singleton.mpr heq.symm)
    · exact fun hmem ↦ hnew _ hmem _ (List.mem_singleton_self _) rfl

/-- The last name is numbered, and then goes by the title of the name before it. -/
example : titlesOf ["A,a", "xa", "a,a1", "a,a"] = ["A,a", "xa", "a,a1", "a,a1"] := by
  decide +kernel

end FormulaAudit.Workbook
