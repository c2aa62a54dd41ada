import FormulaAudit.Proofs.Features.CallPlaces
import FormulaAudit.Proofs.Pattern.Language

/-!
The calls of a formula as repeated searches. A search looks for the first stretch of a text that a
pattern describes, and is taken up again behind it (`FoundInTurn`). The names of a formula are what
the search for letters in front of a parenthesis finds, and the counters of calls count what the
searches for capital letters with a parenthesis and for `IF(` find (`CountedAsFound`). In none of
the three can two stretches begin at one place, so it does not matter which of them a search
prefers (`counters_of_found`). Nothing is skipped and nothing is found twice: the places of the
parentheses alone say what is found (`calls_by_place`).
-/

set_option autoImplicit false

namespace FormulaAudit.Features

/-- A word of the language stands behind the gap, and what is asked for stands behind the word. -/
def StandsBehind (words : Language Char) (ahead gap text : List Char) : Prop :=
  ∃ w ∈ words, ∃ rest, text = gap ++ (w ++ (ahead ++ rest))

/-- The words that are found one after the other: each is a first one in what is left of the text,
and what is left then begins behind it, with the text that was asked for. -/
inductive FoundInTurn (words : Language Char) (ahead : List Char) :
    (text : List Char) → (found : List (List Char)) → Prop
  | nothing {text : List Char} (hnone : ∀ gap, ¬ StandsBehind words ahead gap text) :
      FoundInTurn words ahead text []
  | next {gap w rest : List Char} {found : List (List Char)} (hw : w ∈ words)
      (hfirst : ∀ front, StandsBehind words ahead front (gap ++ (w ++ (ahead ++ rest))) →
        gap.length ≤ front.length)
      (hmore : FoundInTurn words ahead (ahead ++ rest) found) :
      FoundInTurn words ahead (gap ++ (w ++ (ahead ++ rest))) (w :: found)

/-- A search for words that are not empty comes to its end. -/
theorem exists_foundInTurn {words : Language Char} (hwords : [] ∉ words) (ahead text : List Char) :
    ∃ found, FoundInTurn words ahead text found := by
  classical
  induction hlength : text.length using Nat.strong_induction_on generalizing text with
  | _ n ih =>
    by_cases hsome : ∃ start gap, gap.length = start ∧ StandsBehind words ahead gap text
    · obtain ⟨gap, hstart, w, hw, rest, rfl⟩ := Nat.find_spec hsome
      have hne : w ≠ [] := fun hempty ↦ hwords (hempty ▸ hw)
      have hlt : (ahead ++ rest).length < n := by
        have hpos := List.length_pos_of_ne_nil hne
        rw [List.length_append, List.length_append] at hlength
        omega
      obtain ⟨found, hfound⟩ := ih _ hlt (ahead ++ rest) rfl
      refine ⟨w :: found, .next hw (fun front hfront ↦ ?_) hfound⟩
      rw [hstart]
      exact Nat.find_min' hsome ⟨front, rfl, hfront⟩
    · exact ⟨[], .nothing fun gap hgap ↦ hsome ⟨gap.length, gap, rfl, hgap⟩⟩

/-! ### Names in front of parentheses -/

/-- Characters of a name, one or more, and a fixed text behind them. -/
def nameThen (inName : Char → Bool) (more : List Char) : Language Char :=
  {w | ∃ name, name ≠ [] ∧ (∀ c ∈ name, inName c = true) ∧ w = name ++ more}

section Names

variable {inName : Char → Bool}

/-- The parenthesis of a call may be part of the word or stand behind it. -/
theorem append_bracket {taken ahead : List Char} (hsplit : taken ++ ahead = ['('])
    (name rest : List Char) : name ++ taken ++ (ahead ++ rest) = name ++ '(' :: rest := by
  rw [List.append_assoc, ← List.append_assoc taken, hsplit, List.singleton_append]

theorem standsBehind_nameThen_iff {taken ahead gap text : List Char}
    (hsplit : taken ++ ahead = ['(']) : StandsBehind (nameThen inName taken) ahead gap text ↔
      ∃ name rest, name ≠ [] ∧ (∀ c ∈ name, inName c = true) ∧
        text = gap ++ (name ++ '(' :: rest) := by
  constructor
  · rintro ⟨_, ⟨name, hne, hname, rfl⟩, rest, rfl⟩
    exact ⟨name, rest, hne, hname, by rw [append_bracket hsplit]⟩
  · rintro ⟨name, rest, hne, hname, rfl⟩
    exact ⟨name ++ taken, ⟨name, hne, hname, rfl⟩, rest, by rw [append_bracket hsplit]⟩

/-- A run of characters of a name is read as a whole. -/
theorem calledNames_of_forall {name : List Char} (hname : ∀ c ∈ name, inName c = true)
    (run cs : List Char) :
    calledNames inName run (name ++ cs) = calledNames inName (name.reverse ++ run) cs := by
  induction name generalizing run with
  | nil => rfl
  | cons c name ih =>
    rw [List.cons_append, calledNames, if_pos (hname c List.mem_cons_self),
      ih fun d hd ↦ hname d (List.mem_cons_of_mem c hd), List.reverse_cons, List.append_assoc,
      List.singleton_append]

/-- Where no run of characters of a name stands in front of a parenthesis, no name is called. -/
theorem calledNames_eq_nil (hbracket : inName '(' = false) {cs : List Char}
    (hnone : ∀ gap name rest, name ≠ [] → (∀ c ∈ name, inName c = true) →
      cs ≠ gap ++ (name ++ '(' :: rest)) : calledNames inName [] cs = [] := by
  rw [calledNames_eq_map hbracket, List.map_eq_nil_iff, List.eq_nil_iff_forall_not_mem]
  intro place hplace
  refine hnone ((cs.take place).rdropWhile inName) (nameBefore inName cs place)
    (cs.drop (place + 1)) (nameBefore_ne_nil hplace) (fun c hc ↦ of_mem_nameBefore hc) ?_
  rw [nameBefore, ← List.append_assoc, List.rdropWhile_append_rtakeWhile]
  exact eq_append_of_mem_callPlaces hplace

/-- A name in front of a parenthesis is the first that is called if no call begins earlier. -/
theorem calledNames_first (hbracket : inName '(' = false) {gap name rest : List Char}
    (hne : name ≠ []) (hname : ∀ c ∈ name, inName c = true)
    (hfirst : ∀ front other more, other ≠ [] → (∀ c ∈ other, inName c = true) →
      gap ++ (name ++ '(' :: rest) = front ++ (other ++ '(' :: more) →
        gap.length ≤ front.length) :
    calledNames inName [] (gap ++ (name ++ '(' :: rest)) = name :: calledNames inName [] rest := by
  have hrun : gap.rtakeWhile inName = [] := by
    -- Otherwise the name would begin with the run in front of it.
    by_contra hrun
    have hsplit : gap.rdropWhile inName ++ gap.rtakeWhile inName = gap :=
      List.rdropWhile_append_rtakeWhile
    have hlonger : ∀ c ∈ gap.rtakeWhile inName ++ name, inName c = true := by
      intro c hc
      rcases List.mem_append.mp hc with hc | hc
      · exact List.mem_rtakeWhile_imp hc
      · exact hname c hc
    have hle := hfirst (gap.rdropWhile inName) (gap.rtakeWhile inName ++ name) rest
      (List.append_ne_nil_of_right_ne_nil _ hne) hlonger
      (by rw [List.append_assoc, ← List.append_assoc (gap.rdropWhile inName), hsplit])
    have hlength := congrArg List.length hsplit
    have hpos := List.length_pos_of_ne_nil hrun
    rw [List.length_append] at hlength
    omega
  have hgap : calledNames inName [] gap = [] := by
    refine calledNames_eq_nil hbracket fun front other more hother hall hgap ↦ ?_
    have hle := hfirst front other (more ++ (name ++ '(' :: rest)) hother hall (by simp [hgap])
    have hlength := congrArg List.length hgap
    have hpos := List.length_pos_of_ne_nil hother
    rw [List.length_append, List.length_append, List.length_cons] at hlength
    omega
  rw [calledNames_append, hgap, hrun, List.reverse_nil, List.nil_append,
    calledNames_of_forall hname, calledNames]
  simp [hbracket, hne]

/-- What a search for names in front of a parenthesis finds, or one for names with a parenthesis,
are the names that are called. -/
theorem found_eq_calledNames {taken ahead text : List Char} {found : List (List Char)}
    (hbracket : inName '(' = false) (hsplit : taken ++ ahead = ['('])
    (hfound : FoundInTurn (nameThen inName taken) ahead text found) :
    found = (calledNames inName [] text).map (· ++ taken) := by
  have hrest (rest : List Char) :
      calledNames inName [] (ahead ++ rest) = calledNames inName [] rest := by
    rcases List.append_eq_singleton_iff.mp hsplit with ⟨-, rfl⟩ | ⟨-, rfl⟩
    · simp [calledNames, hbracket]
    · rfl
  induction hfound with
  | nothing hnone =>
    rw [calledNames_eq_nil hbracket, List.map_nil]
    intro gap name rest hne hname htext
    exact hnone gap ((standsBehind_nameThen_iff hsplit).mpr ⟨name, rest, hne, hname, htext⟩)
  | @next gap w rest found hw hfirst hmore ih =>
    obtain ⟨name, hne, hname, rfl⟩ := hw
    rw [append_bracket hsplit] at hfirst ⊢
    rw [calledNames_first hbracket hne hname, List.map_cons, ih, hrest]
    intro front other more hother hall htext
    exact hfirst front ((standsBehind_nameThen_iff hsplit).mpr ⟨other, more, hother, hall, htext⟩)

end Names

/-! ### Calls of `IF` -/

/-- What does not begin in front of the text is counted within it. -/
theorem places_append_of_forall {fits : List Char → Bool} {gap cs : List Char}
    (hnone : ∀ front more, gap = front ++ more → more ≠ [] → ¬ fits (more ++ cs) = true) :
    places fits (gap ++ cs) = places fits cs := by
  induction gap with
  | nil => rfl
  | cons c gap ih =>
    have hhere : ¬ fits (c :: (gap ++ cs)) = true :=
      hnone [] (c :: gap) rfl (List.cons_ne_nil c gap)
    rw [List.cons_append, places_cons, if_neg hhere, Nat.add_zero]
    exact ih fun front more hgap ↦ hnone (c :: front) more (congrArg (c :: ·) hgap)

/-- The word `IF`, in any case, and an opening parenthesis. -/
def ifPattern : Pattern := .caseless "IF("

theorem mem_language_ifPattern {w : List Char} : w ∈ ifPattern.language ↔
    ∃ first ∈ Text.caselessVariants 'I', ∃ second ∈ Text.caselessVariants 'F',
      w = [first, second, '('] := by
  have hword : "IF(".toList = ['I', 'F', '('] := by decide
  have hbracket : Text.caselessVariants '(' = ['('] := by decide
  rw [ifPattern, Pattern.mem_language_caseless, hword]
  constructor
  · rintro (_ | ⟨hfirst, _ | ⟨hsecond, _ | ⟨hin, hrest⟩⟩⟩)
    rw [hbracket, List.mem_singleton] at hin
    rw [hin, List.forall₂_nil_right_iff.mp hrest]
    exact ⟨_, hfirst, _, hsecond, rfl⟩
  · rintro ⟨first, hfirst, second, hsecond, rfl⟩
    exact .cons hfirst (.cons hsecond (.cons (by simp [hbracket]) .nil))

theorem atIf_iff {cs : List Char} :
    atIf cs = true ↔ ∃ w ∈ ifPattern.language, ∃ rest, cs = w ++ rest := by
  simp only [mem_language_ifPattern]
  constructor
  · intro hfits
    match cs with
    | [] | [_] | [_, _] => simp [atIf] at hfits
    | first :: second :: bracket :: rest =>
      simp only [atIf, Bool.and_eq_true, List.contains_iff_mem, beq_iff_eq] at hfits
      obtain ⟨⟨hfirst, hsecond⟩, rfl⟩ := hfits
      exact ⟨_, ⟨first, hfirst, second, hsecond, rfl⟩, rest, rfl⟩
  · rintro ⟨_, ⟨first, hfirst, second, hsecond, rfl⟩, rest, rfl⟩
    simp [atIf, hfirst, hsecond]

theorem standsBehind_of_atIf {gap cs : List Char} (hfits : atIf cs = true) :
    StandsBehind ifPattern.language [] gap (gap ++ cs) := by
  obtain ⟨w, hw, rest, rfl⟩ := atIf_iff.mp hfits
  exact ⟨w, hw, rest, rfl⟩

theorem length_found_eq_ifCalls {text : List Char} {found : List (List Char)}
    (hfound : FoundInTurn ifPattern.language [] text found) : found.length = ifCalls text := by
  induction hfound with
  | @nothing text hnone =>
    have hall : places atIf (text ++ []) = places atIf [] := by
      refine places_append_of_forall fun front more htext _ hfits ↦ hnone front ?_
      rw [htext]
      rw [List.append_nil] at hfits
      exact standsBehind_of_atIf hfits
    rw [ifCalls_eq_places, ← List.append_nil text, hall]
    rfl
  | @next gap w rest found hw hfirst hmore ih =>
    rw [List.nil_append] at hfirst ih ⊢
    have hgap : places atIf (gap ++ (w ++ rest)) = places atIf (w ++ rest) := by
      refine places_append_of_forall fun front more hgap hne hfits ↦ ?_
      have hle := hfirst front (by
        rw [hgap, List.append_assoc]
        exact standsBehind_of_atIf hfits)
      have hpos := List.length_pos_of_ne_nil hne
      rw [hgap, List.length_append] at hle
      omega
    have hhere : ifCalls (w ++ rest) = ifCalls rest + 1 := by
      obtain ⟨first, hone, second, htwo, rfl⟩ := mem_language_ifPattern.mp hw
      simp [ifCalls, hone, htwo]
    rw [ifCalls_eq_places, hgap, ← ifCalls_eq_places, hhere, ← ih, List.length_cons]

/-! ### The three searches -/

/-- One letter or more, of either case. -/
def namePattern : Pattern := .repeated (.oneOf { items := [.range 'A' 'Z', .range 'a' 'z'] })

/-- One capital letter or more and an opening parenthesis. -/
def callPattern : Pattern := .seq (.repeated (.oneOf .capital)) (.literal "(")

theorem language_namePattern : namePattern.language = nameThen isLetter [] := by
  ext w
  rw [namePattern, Pattern.mem_language_repeated_oneOf]
  simp only [CharClass.contains, ClassItem.contains, List.any_cons, List.any_nil, Bool.or_false,
    Bool.false_bne]
  constructor
  · rintro ⟨hne, hall⟩
    exact ⟨w, hne, hall, (List.append_nil w).symm⟩
  · rintro ⟨name, hne, hall, rfl⟩
    rw [List.append_nil]
    exact ⟨hne, hall⟩

theorem language_callPattern : callPattern.language = nameThen isCapital ['('] := by
  ext w
  have hbracket : "(".toList = ['('] := by decide
  rw [callPattern, Pattern.language, Language.mem_mul]
  simp only [Pattern.mem_language_repeated_oneOf, Pattern.mem_language_literal, hbracket,
    CharClass.contains_capital]
  constructor
  · rintro ⟨name, ⟨hne, hall⟩, _, rfl, rfl⟩
    exact ⟨name, hne, hall, rfl⟩
  · rintro ⟨name, hne, hall, rfl⟩
    exact ⟨name, ⟨hne, hall⟩, ['('], rfl, rfl⟩

theorem nil_not_mem_nameThen (inName : Char → Bool) (more : List Char) :
    [] ∉ nameThen inName more := by
  rintro ⟨name, hne, -, hnil⟩
  exact hne (List.append_eq_nil_iff.mp hnil.symm).1

/-- Whatever the three searches find in a formula, its names and counters are taken from it. -/
theorem counters_of_found {formula : String} {names calls conditionals : List (List Char)}
    (hnames : FoundInTurn namePattern.language ['('] formula.toList names)
    (hcalls : FoundInTurn callPattern.language [] formula.toList calls)
    (hconditionals : FoundInTurn ifPattern.language [] formula.toList conditionals) :
    (ofFormula formula).functionNames =
        names.map (fun name ↦ String.ofList (Text.uppercase name)) ∧
      (ofFormula formula).functionCount = calls.length ∧
      (ofFormula formula).ifCount = conditionals.length := by
  rw [language_namePattern] at hnames
  rw [language_callPattern] at hcalls
  have hnames := found_eq_calledNames (by decide) rfl hnames
  have hcalls := found_eq_calledNames (by decide) rfl hcalls
  simp only [List.append_nil, List.map_id'] at hnames
  refine ⟨?_, ?_, ?_⟩
  · rw [ofFormula, functionNamesOf, hnames]
  · rw [ofFormula, capitalCalls, hcalls, List.length_map]
  · rw [ofFormula, length_found_eq_ifCalls hconditionals]

/-- Three searches, for names in front of parentheses, for capital letters with a parenthesis and
for calls of `IF`, come to their ends with what the names and the counters are taken from. -/
def CountedAsFound (formula : String) (f : Features) : Prop :=
  ∃ names calls conditionals,
    FoundInTurn namePattern.language ['('] formula.toList names ∧
      FoundInTurn callPattern.language [] formula.toList calls ∧
      FoundInTurn ifPattern.language [] formula.toList conditionals ∧
      f.functionNames = names.map (fun name ↦ String.ofList (Text.uppercase name)) ∧
      f.functionCount = calls.length ∧ f.ifCount = conditionals.length

theorem countedAsFound_ofFormula (formula : String) :
    CountedAsFound formula (ofFormula formula) := by
  have hname : [] ∉ namePattern.language :=
    language_namePattern ▸ nil_not_mem_nameThen isLetter []
  have hcall : [] ∉ callPattern.language :=
    language_callPattern ▸ nil_not_mem_nameThen isCapital ['(']
  have hif : [] ∉ ifPattern.language := by
    rw [mem_language_ifPattern]
    rintro ⟨_, -, _, -, hnil⟩
    exact List.cons_ne_nil _ _ hnil.symm
  obtain ⟨names, hnames⟩ := exists_foundInTurn hname ['('] formula.toList
  obtain ⟨calls, hcalls⟩ := exists_foundInTurn hcall [] formula.toList
  obtain ⟨conditionals, hconditionals⟩ := exists_foundInTurn hif [] formula.toList
  exact ⟨names, calls, conditionals, hnames, hcalls, hconditionals,
    counters_of_found hnames hcalls hconditionals⟩

/-- What the searches for calls find, by the places of the parentheses: the names are the longest
runs of letters in front of these places, in their order and in upper case, so that each is a word
of capital letters; calls in capital letters and calls of `IF` are counted by their places, and
there are no more of the former than there are names. -/
theorem calls_by_place (formula : String) :
    CountedAsFound formula (ofFormula formula) ∧
    functionNamesOf formula = (callPlaces isLetter formula.toList).map (fun place ↦
      String.ofList ((nameBefore isLetter formula.toList place).map Char.toUpper)) ∧
    (∀ name ∈ functionNamesOf formula,
      name.toList ≠ [] ∧ ∀ c ∈ name.toList, 'A' ≤ c ∧ c ≤ 'Z') ∧
    (ofFormula formula).functionNames = functionNamesOf formula ∧
    (ofFormula formula).functionCount = (callPlaces isCapital formula.toList).length ∧
    (ofFormula formula).ifCount = (ifPlaces formula.toList).length ∧
    (ofFormula formula).functionCount ≤ (ofFormula formula).functionNames.length := by
  refine ⟨countedAsFound_ofFormula formula, functionNamesOf_eq_map formula,
    fun name hname ↦ capitals_of_mem_functionNamesOf hname, rfl,
    functionCount_eq_length_callPlaces formula, ?_, functionCount_le formula⟩
  rw [length_ifPlaces, ofFormula]

end FormulaAudit.Features
