import FormulaAudit.FunctionCatalogue
import Mathlib.Data.List.Forall2

/-!
Names sorted into the groups of the catalogue. Each group keeps every occurrence of its members
among the names, in their order, and the group of others keeps what no group of the catalogue has as
a member (`IsPart`). The names known to the catalogue are collected from the groups themselves, so
no name is left out and none is among the others that stands in a group (`SortedInto`). Two lists of
names one behind the other are sorted group by group (`categorize_sorts`).
-/

set_option autoImplicit false

namespace FormulaAudit.FunctionCatalogue

/-- Every occurrence of the names to keep, in the order of the names, and nothing else. -/
structure IsPart (keep : String → Prop) (names part : List String) : Prop where
  sublist : part.Sublist names
  kept : ∀ name ∈ part, keep name
  count : ∀ name, keep name → part.count name = names.count name

/-- What the groups of the catalogue, and the others, owe the names that are sorted into them. -/
structure SortedInto (names : List String) (parts : List Group) (others : List String) : Prop where
  byGroup : List.Forall₂ (fun group part ↦ part.title = group.title ∧
    IsPart (· ∈ group.members) names part.members) groups parts
  unknown : IsPart (fun name ↦ ∀ group ∈ groups, name ∉ group.members) names others
  covered : ∀ name ∈ names, name ∈ others ∨ ∃ part ∈ parts, name ∈ part.members
  mem_others_iff : ∀ name ∈ names, (name ∈ others ↔ ∀ part ∈ parts, name ∉ part.members)

/-- Two groups of one title as one. -/
def Group.append (first second : Group) : Group := ⟨first.title, first.members ++ second.members⟩

theorem isPart_filter (keep : String → Prop) [DecidablePred keep] (names : List String) :
    IsPart keep names (names.filter (keep ·)) where
  sublist := List.filter_sublist
  kept _ hname := of_decide_eq_true (List.mem_filter.mp hname).2
  count _ hname := List.count_filter (decide_eq_true hname)

theorem mem_known_iff {name : String} : name ∈ known ↔ ∃ group ∈ groups, name ∈ group.members :=
  List.mem_flatMap

theorem not_mem_known_iff {name : String} :
    name ∉ known ↔ ∀ group ∈ groups, name ∉ group.members := by
  simp only [mem_known_iff, not_exists, not_and]

/-- The part of the names that a group of the catalogue keeps. -/
def Group.part (names : List String) (group : Group) : Group :=
  ⟨group.title, names.filter (· ∈ group.members)⟩

def othersOf (names : List String) : List String := names.filter (· ∉ known)

theorem categorize_eq (names : List String) :
    categorize names = groups.map (Group.part names) ++ [⟨"Other", othersOf names⟩] := rfl

theorem mem_othersOf_iff {names : List String} {name : String} (hname : name ∈ names) :
    name ∈ othersOf names ↔ ∀ part ∈ groups.map (Group.part names), name ∉ part.members := by
  rw [List.forall_mem_map, othersOf, List.mem_filter, decide_eq_true_iff, not_mem_known_iff]
  simp only [Group.part, List.mem_filter, hname, true_and, decide_eq_true_iff]

theorem sortedInto_categorize (names : List String) :
    SortedInto names (groups.map (Group.part names)) (othersOf names) where
  byGroup := by
    rw [List.forall₂_map_right_iff, List.forall₂_same]
    exact fun group _ ↦ ⟨rfl, isPart_filter _ names⟩
  unknown := by
    have hothers : IsPart (· ∉ known) names (othersOf names) := isPart_filter _ names
    simpa only [not_mem_known_iff] using hothers
  covered name hname := by
    by_cases hother : name ∈ othersOf names
    · exact Or.inl hother
    · simp only [mem_othersOf_iff hname, not_forall, not_not] at hother
      obtain ⟨part, hpart, hmem⟩ := hother
      exact Or.inr ⟨part, hpart, hmem⟩
  mem_others_iff name hname := mem_othersOf_iff hname

theorem part_append (names more : List String) (group : Group) :
    group.part (names ++ more) = (group.part names).append (group.part more) := by
  rw [Group.part, List.filter_append]
  rfl

theorem categorize_append (names more : List String) :
    categorize (names ++ more) =
      List.zipWith Group.append (categorize names) (categorize more) := by
  have hlength : (groups.map (Group.part names)).length = (groups.map (Group.part more)).length := by
    rw [List.length_map, List.length_map]
  rw [categorize_eq, categorize_eq, categorize_eq, List.zipWith_append hlength, List.zipWith_map,
    List.zipWith_self, othersOf, List.filter_append]
  refine congrArg (· ++ _) (List.map_congr_left fun group _ ↦ ?_)
  exact part_append names more group

/-- The names are sorted into the groups of the catalogue, in its order, and the others after them.
Every name is in one of them at least, and it is among the others exactly if no group has it. Two
lists one behind the other are sorted group by group. -/
theorem categorize_sorts (names more : List String) :
    (categorize names).map (·.title) = ["Basic Functions", "Conditional Logic",
        "Lookup & Reference", "Aggregation", "Text Processing", "Mathematical", "Other"] ∧
      (∃ parts others, categorize names = parts ++ [⟨"Other", others⟩] ∧
        SortedInto names parts others) ∧
      categorize (names ++ more) =
        List.zipWith Group.append (categorize names) (categorize more) :=
  ⟨rfl, ⟨_, _, categorize_eq names, sortedInto_categorize names⟩, categorize_append names more⟩

/-- A name of two groups, one of a single group, and one of none. -/
example : (categorize ["LEFT", "XLOOKUP", "LEFT", "VLOOKUP"]).map (·.members) =
    [["LEFT", "LEFT"], [], ["VLOOKUP"], [], ["LEFT", "LEFT"], [], ["XLOOKUP"]] := by decide

end FormulaAudit.FunctionCatalogue
