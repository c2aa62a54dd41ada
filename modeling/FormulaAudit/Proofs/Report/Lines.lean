import FormulaAudit.Proofs.Report.MarkdownTables
import FormulaAudit.Request

/-!
Lines of a report. Both reports for readers are lines joined by line feeds, so what stands in the list
of lines one behind the other stands in the text one below the other (`showsLines_summaryReport`,
`showsLines_narrativeReport`).
-/

set_option autoImplicit false

namespace FormulaAudit

namespace Report

/-- The lines stand in the text one below the other, and share no line with anything else. -/
def ShowsLines (text : String) (lines : List String) : Prop :=
  ∃ before after, text = "\n".intercalate (before ++ lines ++ after)

theorem showsLines_intercalate {lines all : List String} (h : lines <:+: all) :
    ShowsLines ("\n".intercalate all) lines := by
  obtain ⟨before, after, rfl⟩ := h
  exact ⟨before, after, rfl⟩

/-- Lines among those that a text shows are shown as well. -/
theorem ShowsLines.of_isInfix {text : String} {lines some : List String} (h : ShowsLines text lines)
    (hsome : some <:+: lines) : ShowsLines text some := by
  obtain ⟨before, after, rfl⟩ := h
  exact showsLines_intercalate (hsome.trans (List.infix_append _ _ _))

/-- The items with their places, counted from one, each written as a line. -/
theorem map_numbered {α : Type} (line : ℕ → α → String) (items : List α) :
    (numbered items).map (fun (index, item) ↦ line index item) =
      items.mapIdx fun i item ↦ line (i + 1) item := by
  rw [numbered, List.map_map, List.mapIdx_eq_zipIdx_map]
  rfl

end Report

namespace Corpus

open Report

variable {c : Corpus} {lines : List String}

theorem unlessEmpty_eq_ok {α : Type} (hfull : c.isEmpty = false) (purpose : Purpose) (answer : α) :
    c.unlessEmpty purpose answer = .ok answer := by
  rw [unlessEmpty, hfull]
  rfl

theorem showsLines_summaryReport {limit : ℤ} (h : lines <:+: summaryLines limit c) :
    ShowsLines (c.summaryReport limit) lines := showsLines_intercalate h

theorem showsLines_narrativeReport {settings : Settings} {name : String} {generated : Moment}
    (h : lines <:+: narrativeLines settings c name generated) :
    ShowsLines (c.narrativeReport settings name generated) lines := by
  have hreport : c.narrativeReport settings name generated =
      "\n".intercalate (narrativeLines settings c name generated ++ [""]) := by
    rw [String.intercalate_append_of_ne_nil (c.narrativeLines_ne_nil settings name generated)
      (List.cons_ne_nil _ _), String.intercalate_singleton, String.append_empty]
    rfl
  rw [hreport]
  exact showsLines_intercalate (h.trans (List.infix_append [] _ _))

end Corpus

end FormulaAudit
