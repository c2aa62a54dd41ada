import FormulaAudit.Proofs.Features.CallPlaces
import FormulaAudit.Score
import Mathlib.Data.List.Basic

/-!
The score grows with the features. `Within` compares two sheets of measurements, measurement by
measurement; a formula lies within every text that it is part of
(`ofFormula_within_of_isInfix`), and features within others earn no more points (`Within.score_le`),
as every tier table gives more points to what exceeds more.
-/

set_option autoImplicit false

namespace FormulaAudit

/-- A tier table names its bounds from above, and a higher bound earns at least as many points. -/
def Tier.Descending (tiers : List Tier) : Prop :=
  tiers.Pairwise fun first second ↦ second.above ≤ first.above ∧ second.points ≤ first.points

instance (tiers : List Tier) : Decidable (Tier.Descending tiers) :=
  inferInstanceAs (Decidable (tiers.Pairwise _))

theorem Tier.pointsFor_cons (value : Int) (tier : Tier) (tiers : List Tier) :
    pointsFor value (tier :: tiers) =
      if tier.above < value then tier.points else pointsFor value tiers := by
  rw [pointsFor, pointsFor, List.find?_cons]
  by_cases hlt : tier.above < value <;> simp [hlt]

/-- No value earns more than the points of the first tier. -/
theorem Tier.pointsFor_le {tiers : List Tier} {most : Nat}
    (hmost : ∀ tier ∈ tiers, tier.points ≤ most) (value : Int) : pointsFor value tiers ≤ most := by
  induction tiers with
  | nil => exact Nat.zero_le most
  | cons tier tiers ih =>
    rw [pointsFor_cons]
    split
    · exact hmost tier List.mem_cons_self
    · exact ih fun other hother ↦ hmost other (List.mem_cons_of_mem tier hother)

theorem Tier.pointsFor_mono {tiers : List Tier} (htiers : Descending tiers) {value more : Int}
    (hle : value ≤ more) : pointsFor value tiers ≤ pointsFor more tiers := by
  induction tiers with
  | nil => exact Nat.le_refl _
  | cons tier tiers ih =>
    obtain ⟨hhead, htail⟩ := List.pairwise_cons.mp htiers
    rw [pointsFor_cons, pointsFor_cons]
    by_cases hvalue : tier.above < value
    · rw [if_pos hvalue, if_pos (by omega)]
    · rw [if_neg hvalue]
      split
      · exact pointsFor_le (fun other hother ↦ (hhead other hother).2) value
      · exact ih htail

namespace Features

/-- No measurement of the first exceeds that of the second. -/
structure Within (f g : Features) : Prop where
  length : f.length ≤ g.length
  functionCount : f.functionCount ≤ g.functionCount
  ifCount : f.ifCount ≤ g.ifCount
  commaCount : f.commaCount ≤ g.commaCount
  crossSheet : f.crossSheet = true → g.crossSheet = true
  complexFunctions : f.complexFunctions.Sublist g.complexFunctions
  logicalOperators : f.logicalOperators.Sublist g.logicalOperators

theorem Within.score_le {f g : Features} (h : f.Within g) : f.score ≤ g.score := by
  have hfunctions : f.breakdown.functionCount ≤ g.breakdown.functionCount :=
    Tier.pointsFor_mono (by decide) h.functionCount
  have hif : f.breakdown.ifCount ≤ g.breakdown.ifCount :=
    Tier.pointsFor_mono (by decide) h.ifCount
  have hsheet : f.breakdown.crossSheet ≤ g.breakdown.crossSheet := by
    have hcross := h.crossSheet
    cases hf : f.crossSheet <;> cases hg : g.crossSheet <;> simp_all [breakdown]
  have hlength : f.breakdown.length ≤ g.breakdown.length :=
    Tier.pointsFor_mono (by decide) h.length
  have hcomplex : f.breakdown.complexFunctions ≤ g.breakdown.complexFunctions :=
    h.complexFunctions.length_le
  have hlogical : f.breakdown.logicalOperators ≤ g.breakdown.logicalOperators :=
    h.logicalOperators.length_le
  have hcommas : f.breakdown.commaCount ≤ g.breakdown.commaCount :=
    Tier.pointsFor_mono (by decide) h.commaCount
  unfold score Breakdown.total
  omega

theorem isInfix_uppercase {cs more : List Char} (hin : cs <:+: more) :
    Text.uppercase cs <:+: Text.uppercase more := by
  obtain ⟨before, after, rfl⟩ := hin
  exact ⟨Text.uppercase before, Text.uppercase after, by
    rw [Text.uppercase_append, Text.uppercase_append]⟩

theorem holds_of_isInfix {word cs more : List Char} (hin : cs <:+: more)
    (hword : holds word cs = true) : holds word more = true := by
  rw [holds_iff_isInfix] at hword ⊢
  exact hword.trans hin

/-- The measurements of a formula do not exceed those of a text that it is part of. -/
theorem ofFormula_within_of_isInfix {formula text : String}
    (hin : formula.toList <:+: text.toList) : (ofFormula formula).Within (ofFormula text) where
  length := by
    have hle := hin.length_le
    simpa [ofFormula] using hle
  functionCount := by
    have hle := places_le_of_isInfix (lasting_atCall isCapital) hin
    simpa [ofFormula, capitalCalls_eq_places] using hle
  ifCount := by
    have hle := places_le_of_isInfix lasting_atIf hin
    simpa [ofFormula, ifCalls_eq_places] using hle
  commaCount := by
    have hle := hin.sublist.count_le ','
    simpa [ofFormula] using hle
  crossSheet := by
    intro hcross
    have hmem : '!' ∈ formula.toList := by simpa [ofFormula] using hcross
    simpa [ofFormula] using hin.subset hmem
  complexFunctions :=
    List.monotone_filter_right _ fun name hname ↦ holds_of_isInfix (isInfix_uppercase hin) hname
  logicalOperators :=
    List.monotone_filter_right _ fun name hname ↦ holds_of_isInfix (isInfix_uppercase hin) hname

end Features

theorem scoreOf_le_of_isInfix {formula text : String} (hin : formula.toList <:+: text.toList) :
    scoreOf formula ≤ scoreOf text := (Features.ofFormula_within_of_isInfix hin).score_le

end FormulaAudit
