import FormulaAudit.Excerpt

/-!
Formulas as they are shown inside a table of a Markdown text. Long formulas are cut first and
escaped afterwards, so a cut never falls between a mark and its backslash.
-/

set_option autoImplicit false

namespace FormulaAudit.Report

/-- A backtick or a pipe, which would end inline code or a table cell. -/
def isMark (c : Char) : Bool := c == '\x60' || c == '|'

def escapeMarks (cs : List Char) : List Char :=
  cs.flatMap fun c ↦ if isMark c then ['\\', c] else [c]

theorem ne_backslash_of_isMark {c : Char} (hc : isMark c = true) : c ≠ '\\' := by
  rintro rfl
  exact absurd hc (by decide)

theorem escapeMarks_cons_of_isMark {c : Char} (hc : isMark c = true) (cs : List Char) :
    escapeMarks (c :: cs) = '\\' :: c :: escapeMarks cs := by
  rw [escapeMarks, List.flatMap_cons, if_pos hc]
  rfl

theorem escapeMarks_cons_of_not_isMark {c : Char} (hc : ¬ isMark c = true) (cs : List Char) :
    escapeMarks (c :: cs) = c :: escapeMarks cs := by
  rw [escapeMarks, List.flatMap_cons, if_neg hc]
  rfl

def escapeFormula (formula : String) : String := String.ofList (escapeMarks formula.toList)

/-- The formula itself if the limit allows for it, or else what the limit less three shows of it and
three dots. -/
def cut (limit : Int) (cs : List Char) : List Char :=
  if limit < cs.length then excerpt (limit - 3) cs ++ ['.', '.', '.'] else cs

def preview (limit : Int) (formula : String) : String :=
  String.ofList (escapeMarks (cut limit formula.toList))

end FormulaAudit.Report
