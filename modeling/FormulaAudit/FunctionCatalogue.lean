import FormulaAudit.Corpus

/-!
The catalogue of spreadsheet functions: how much a function weighs in a migration, the groups it
belongs to, and how many formulas of a corpus call it. Groups overlap; a function that no group
knows belongs to the group of others.
-/

set_option autoImplicit false

namespace FormulaAudit

inductive Impact where
  | low
  | medium
  | high
deriving DecidableEq

def Impact.label : Impact → String
  | low => "Low"
  | medium => "Medium"
  | high => "High"

namespace FunctionCatalogue

def highImpact : List String := ["VLOOKUP", "INDEX", "MATCH", "SUMPRODUCT", "IFERROR"]

def mediumImpact : List String := ["IF", "AND", "OR", "SUMIF", "COUNTIF"]

def impact (name : String) : Impact :=
  if name ∈ highImpact then .high else if name ∈ mediumImpact then .medium else .low

/-- A titled group of functions. -/
structure Group where
  title : String
  members : List String

def groups : List Group :=
  [ ⟨"Basic Functions", ["SUM", "MAX", "MIN", "ROUND", "LEN", "LEFT", "MID", "TRIM"]⟩,
    ⟨"Conditional Logic", ["IF", "AND", "OR", "IFERROR", "ISBLANK"]⟩,
    ⟨"Lookup & Reference", ["VLOOKUP", "INDEX", "MATCH", "SEARCH"]⟩,
    ⟨"Aggregation", ["SUMIF", "COUNTIF", "SUBTOTAL", "SUMPRODUCT"]⟩,
    ⟨"Text Processing", ["CONCATENATE", "LEFT", "MID", "TRIM", "SEARCH", "LEN"]⟩,
    ⟨"Mathematical", ["EXP", "LN", "ROUND"]⟩ ]

def known : List String := groups.flatMap (·.members)

/-- The names sorted into the groups of the catalogue, those in none of them last. -/
def categorize (names : List String) : List Group :=
  groups.map (fun group ↦ ⟨group.title, names.filter (· ∈ group.members)⟩)
    ++ [⟨"Other", names.filter (· ∉ known)⟩]

end FunctionCatalogue

/-- How many formulas call a function. -/
structure FunctionUse where
  name : String
  formulas : Nat
  impact : Impact

/-- The use of each function of the corpus, by name. -/
def Corpus.functionUsage (c : Corpus) : List FunctionUse :=
  c.functionNames.map fun name ↦
    { name, formulas := c.results.countP (name ∈ ·.features.functionNames),
      impact := FunctionCatalogue.impact name }

end FormulaAudit
