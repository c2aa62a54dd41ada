import FormulaAudit.Proofs.Features.Growth
import FormulaAudit.Proofs.Text.UpToCase

/-!
What the measurements of a formula owe to letter case. Calls are counted by their capital letters.
Everything else is measured in upper case, without regard to case, or on signs that have no case, so
formulas that are the same up to case differ in the number of calls only
(`ofFormula_eq_of_sameUpToCase`). That number earns three points at most, and so much may their
scores differ (`abs_scoreOf_sub_le_of_sameUpToCase`).
-/

set_option autoImplicit false

namespace FormulaAudit

open Text

namespace Features

/-- Where the characters of a name are the same in every case, so are the names that are called. -/
theorem calledNames_map_toLower {inName : Char → Bool} (hname : ∀ c, inName c.toLower = inName c)
    (run cs : List Char) : calledNames inName (run.map Char.toLower) (cs.map Char.toLower) =
      (calledNames inName run cs).map (List.map Char.toLower) := by
  have hcall (run : List Char) (c : Char) :
      c.toLower = '(' ∧ run.map Char.toLower ≠ [] ↔ c = '(' ∧ run ≠ [] := by
    rw [toLower_eq_iff (by decide), Ne, List.map_eq_nil_iff]
  fun_induction calledNames inName run cs with
  | case1 run => rfl
  | case2 run c cs hc ih =>
    rw [List.map_cons, calledNames, hname, if_pos hc]
    exact ih
  | case3 run c cs hc hcalled ih =>
    rw [List.map_cons, calledNames, hname, if_neg hc, if_pos ((hcall run c).mpr hcalled),
      List.map_cons, List.map_reverse]
    exact congrArg _ ih
  | case4 run c cs hc hcalled ih =>
    rw [List.map_cons, calledNames, hname, if_neg hc, if_neg (mt (hcall run c).mp hcalled)]
    exact ih

theorem isLetter_toLower (c : Char) : isLetter c.toLower = isLetter c :=
  apply_toLower (by decide +kernel) c

theorem ifCalls_map_toLower (cs : List Char) : ifCalls (cs.map Char.toLower) = ifCalls cs := by
  have hletter {d : Char} (hd : d.toNat < 128) (c : Char) :
      (caselessVariants d).contains c.toLower = (caselessVariants d).contains c := by
    rw [Bool.eq_iff_iff, List.contains_iff_mem, List.contains_iff_mem,
      toLower_mem_caselessVariants_iff hd]
  have hfirst := hletter (d := 'I') (by decide)
  have hsecond := hletter (d := 'F') (by decide)
  have hbracket (c : Char) : (c.toLower == '(') = (c == '(') := by
    rw [Bool.eq_iff_iff, beq_iff_eq, beq_iff_eq, toLower_eq_iff (by decide)]
  fun_induction ifCalls cs with
  | case1 first second bracket cs hcall ih =>
    simp only [List.map_cons, ifCalls, hfirst, hsecond, hbracket, if_pos hcall, ih]
  | case2 first second bracket cs hcall ih =>
    rw [List.map_cons, List.map_cons] at ih
    simp only [List.map_cons, ifCalls, hfirst, hsecond, hbracket, if_neg hcall, ih]
  | case3 cs hshort =>
    match cs with
    | [] | [_] | [_, _] => rfl
    | first :: second :: bracket :: cs => exact absurd rfl (hshort first second bracket cs)

variable {formula variant : String}

theorem functionNamesOf_eq_of_sameUpToCase (h : SameUpToCase formula.toList variant.toList) :
    functionNamesOf formula = functionNamesOf variant := by
  refine h.congr (f := fun cs ↦ (calledNames isLetter [] cs).map fun name ↦
    String.ofList (uppercase name)) fun cs ↦ ?_
  have hlower : calledNames isLetter [] (cs.map Char.toLower) =
      (calledNames isLetter [] cs).map (List.map Char.toLower) :=
    calledNames_map_toLower isLetter_toLower [] cs
  rw [hlower, List.map_map]
  exact List.map_congr_left fun name _ ↦ congrArg String.ofList (uppercase_map_toLower name)

/-- Formulas that are the same up to case have the same measurements, but for the number of calls
in capital letters. -/
theorem ofFormula_eq_of_sameUpToCase (h : SameUpToCase formula.toList variant.toList) :
    ofFormula variant =
      { ofFormula formula with functionCount := (ofFormula variant).functionCount } := by
  have hlength : variant.toList.length = formula.toList.length := h.symm.length_eq
  have hif : ifCalls variant.toList = ifCalls formula.toList := h.symm.congr ifCalls_map_toLower
  have hcommas : variant.toList.count ',' = formula.toList.count ',' :=
    h.symm.congr (count_map_toLower (by decide))
  have hsheet : variant.toList.contains '!' = formula.toList.contains '!' := by
    rw [Bool.eq_iff_iff, List.contains_iff_mem, List.contains_iff_mem, h.mem_iff (by decide)]
  have hupper : uppercase variant.toList = uppercase formula.toList :=
    h.symm.congr uppercase_map_toLower
  simp only [ofFormula, hlength, hif, hcommas, hsheet, hupper,
    functionNamesOf_eq_of_sameUpToCase h]

/-- The number of calls earns no more than three points. -/
theorem score_le_of_functionCount (f : Features) (count : ℤ) :
    ({ f with functionCount := count } : Features).score ≤ f.score + 3 := by
  have hpoints : Tier.pointsFor count functionCountTiers ≤ 3 := Tier.pointsFor_le (by decide) count
  simp only [score, Breakdown.total, breakdown]
  omega

end Features

/-- Formulas that are the same up to case differ in score by the points for calls. -/
theorem abs_scoreOf_sub_le_of_sameUpToCase {formula variant : String}
    (h : SameUpToCase formula.toList variant.toList) :
    |(scoreOf formula : ℤ) - scoreOf variant| ≤ 3 := by
  have hle {f g : String} (hsame : SameUpToCase f.toList g.toList) :
      scoreOf g ≤ scoreOf f + 3 := by
    rw [scoreOf, Features.ofFormula_eq_of_sameUpToCase hsame]
    exact Features.score_le_of_functionCount _ _
  have hforward := hle h
  have hback := hle h.symm
  rw [abs_le]
  omega

end FormulaAudit
