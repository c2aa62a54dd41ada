import FormulaAudit.Proofs.Features.CallPlaces

/-!
Formulas that are joined by an operator. A separator stands in no name and in no call, so no
measurement straddles it: counts add up, the names of one formula follow those of the other, and
what occurs in the whole occurs in one of the two (`ofFormula_joined`). `Joined` says it measurement
by measurement.
-/

set_option autoImplicit false

namespace FormulaAudit.Features

/-- The operators and the comma, which may stand between two formulas. -/
def separators : List Char := ['+', '-', '*', '/', '&', ',', '=', '<', '>']

/-- The third sheet of measurements is that of the other two put together around a separator. -/
structure Joined (separator : Char) (f g whole : Features) : Prop where
  length : whole.length = f.length + g.length + 1
  functionCount : whole.functionCount = f.functionCount + g.functionCount
  ifCount : whole.ifCount = f.ifCount + g.ifCount
  commaCount : whole.commaCount = f.commaCount + g.commaCount + if separator = ',' then 1 else 0
  crossSheet : whole.crossSheet = (f.crossSheet || g.crossSheet)
  functionNames : whole.functionNames = f.functionNames ++ g.functionNames
  complexFunctions : whole.complexFunctions = complexFunctionCatalogue.filter fun name ↦
    name ∈ f.complexFunctions ∨ name ∈ g.complexFunctions
  logicalOperators : whole.logicalOperators = logicalOperatorCatalogue.filter fun name ↦
    name ∈ f.logicalOperators ∨ name ∈ g.logicalOperators

/-- A separator is in no name and in no call of `IF`, it is neither a parenthesis nor the mark of a
sheet, and it has no other case. -/
theorem apart_of_mem_separators : ∀ c ∈ separators,
    isLetter c = false ∧ isCapital c = false ∧ c ≠ '(' ∧ c ≠ '!' ∧ Text.upper c = [c] ∧
      (Text.caselessVariants 'I').contains c = false ∧
      (Text.caselessVariants 'F').contains c = false := by
  rw [← List.forall_iff_forall_mem]
  decide

/-- No word that is looked for has a separator in it. -/
theorem separators_not_mem_words : ∀ c ∈ separators,
    (∀ name ∈ complexFunctionCatalogue, c ∉ name.toList) ∧
      ∀ name ∈ logicalOperatorCatalogue, c ∉ name.toList ++ ['('] := by
  simp [separators, complexFunctionCatalogue, logicalOperatorCatalogue]

section Separators

variable {separator : Char} {xs ys : List Char}

/-- A character that is in no name, and no parenthesis, ends one reading and starts another. -/
theorem calledNames_append_cons {inName : Char → Bool} (hname : inName separator = false)
    (hbracket : separator ≠ '(') :
    calledNames inName [] (xs ++ separator :: ys) =
      calledNames inName [] xs ++ calledNames inName [] ys := by
  rw [calledNames_append, calledNames]
  simp [hname, hbracket]

/-- Every place is in front of the separator, or behind it, or at it. -/
theorem places_append_cons {fits : List Char → Bool}
    (hfits : ∀ xs ys, fits (xs ++ separator :: ys) = fits xs) (hempty : fits [] = false) :
    places fits (xs ++ separator :: ys) = places fits xs + places fits ys := by
  have hhere : fits (separator :: ys) = false := (hfits [] ys).trans hempty
  induction xs with
  | nil => simp [places_cons, places_nil, hhere, hempty]
  | cons c xs ih =>
    rw [List.cons_append, places_cons, places_cons, ih, ← List.cons_append, hfits]
    omega

theorem eq_nil_of_prefix_cons {word : List Char} (hword : separator ∉ word)
    (hstarts : word <+: separator :: ys) : word = [] := by
  cases word with
  | nil => rfl
  | cons c word =>
    obtain ⟨rfl, -⟩ := List.cons_prefix_cons.mp hstarts
    exact absurd List.mem_cons_self hword

/-- A word without the separator lies on one side of it. -/
theorem isInfix_append_cons_iff {word : List Char} (hword : separator ∉ word) :
    word <:+: xs ++ separator :: ys ↔ word <:+: xs ∨ word <:+: ys := by
  rw [List.infix_append_iff, List.infix_cons_iff]
  constructor
  · rintro (hleft | (hstarts | hright) | ⟨left, right, rfl, hleft, hright⟩)
    · exact Or.inl hleft
    · obtain rfl := eq_nil_of_prefix_cons hword hstarts
      exact Or.inl List.nil_infix
    · exact Or.inr hright
    · have hright' : separator ∉ right := fun hmem ↦ hword (List.mem_append_right left hmem)
      obtain rfl := eq_nil_of_prefix_cons hright' hright
      rw [List.append_nil]
      exact Or.inl hleft.isInfix
  · rintro (hleft | hright)
    · exact Or.inl hleft
    · exact Or.inr (Or.inl (Or.inr hright))

theorem holds_append_cons {word : List Char} (hword : separator ∉ word) :
    holds word (xs ++ separator :: ys) = (holds word xs || holds word ys) := by
  rw [Bool.eq_iff_iff, Bool.or_eq_true, holds_iff_isInfix, holds_iff_isInfix, holds_iff_isInfix]
  exact isInfix_append_cons_iff hword

end Separators

/-- No letter of `IF` and no parenthesis is a separator. -/
theorem atIf_append_cons {separator : Char} (hseparator : separator ∈ separators)
    (xs ys : List Char) : atIf (xs ++ separator :: ys) = atIf xs := by
  obtain ⟨-, -, hbracket, -, -, hfirst, hsecond⟩ := apart_of_mem_separators separator hseparator
  rcases xs with _ | ⟨_, _ | ⟨_, _ | ⟨_, _⟩⟩⟩
  · rcases ys with _ | ⟨_, _ | ⟨_, _⟩⟩
    · rfl
    · rfl
    · simp only [List.nil_append, atIf, hfirst, Bool.false_and]
  · rcases ys with _ | ⟨_, _⟩
    · rfl
    · simp only [List.cons_append, List.nil_append, atIf, hsecond, Bool.and_false, Bool.false_and]
  · simp only [List.cons_append, List.nil_append, atIf, beq_eq_false_iff_ne.mpr hbracket,
      Bool.and_false]
  · rfl

/-- Which words of a catalogue occur in the whole is known from its two sides, if no word has the
separator in it. -/
theorem filter_holds_append_cons {separator : Char} {wordOf : String → List Char}
    {catalogue : List String} (hupper : Text.upper separator = [separator])
    (hwords : ∀ name ∈ catalogue, separator ∉ wordOf name) (xs ys : List Char) :
    (catalogue.filter fun name ↦ holds (wordOf name) (Text.uppercase (xs ++ separator :: ys))) =
      catalogue.filter fun name ↦
        name ∈ (catalogue.filter fun name ↦ holds (wordOf name) (Text.uppercase xs)) ∨
          name ∈ (catalogue.filter fun name ↦ holds (wordOf name) (Text.uppercase ys)) := by
  refine List.filter_congr fun name hname ↦ ?_
  rw [Text.uppercase_append, Text.uppercase_cons, hupper, List.singleton_append,
    holds_append_cons (hwords name hname), Bool.eq_iff_iff]
  simp [hname]

/-- The measurements of two formulas with a separator between them are those of the first and of the
second put together. -/
theorem ofFormula_joined (first second : String) (separator : Char)
    (hseparator : separator ∈ separators) :
    Joined separator (ofFormula first) (ofFormula second)
      (ofFormula (first ++ String.singleton separator ++ second)) := by
  have hwhole : (first ++ String.singleton separator ++ second).toList =
      first.toList ++ separator :: second.toList := by simp
  obtain ⟨hletter, hcapital, hbracket, hmark, hupper, -, -⟩ :=
    apart_of_mem_separators separator hseparator
  obtain ⟨hfunctions, hoperators⟩ := separators_not_mem_words separator hseparator
  exact {
    length := by
      simp only [ofFormula, hwhole, List.length_append, List.length_cons]
      omega
    functionCount := by
      simp only [ofFormula, hwhole, capitalCalls, calledNames_append_cons hcapital hbracket,
        List.length_append, Int.natCast_add]
    ifCount := by
      simp only [ofFormula, hwhole, ifCalls_eq_places,
        places_append_cons (atIf_append_cons hseparator) rfl, Int.natCast_add]
    commaCount := by
      simp only [ofFormula, hwhole, List.count_append, List.count_cons, beq_iff_eq]
      split <;> omega
    crossSheet := by
      have hne : ¬ '!' = separator := fun h ↦ hmark h.symm
      simp [ofFormula, hne]
    functionNames := by
      simp only [ofFormula, functionNamesOf, hwhole, calledNames_append_cons hletter hbracket,
        List.map_append]
    complexFunctions := by
      simp only [ofFormula, hwhole]
      exact filter_holds_append_cons hupper hfunctions first.toList second.toList
    logicalOperators := by
      simp only [ofFormula, hwhole]
      exact filter_holds_append_cons hupper hoperators first.toList second.toList }

theorem ofFormula_joined_plus :
    '+' ∈ separators ∧ Joined '+' (ofFormula "if(A1,1)") (ofFormula "XOR(B!1)")
      (ofFormula ("if(A1,1)" ++ String.singleton '+' ++ "XOR(B!1)")) :=
  ⟨by decide, ofFormula_joined "if(A1,1)" "XOR(B!1)" '+' (by decide)⟩

end FormulaAudit.Features
