/-!
Rounding of quotients to the nearest natural number, a half to the even neighbour. What is rounded
is at most half a unit away, and of two neighbours that are equally near the even one is taken.
-/

set_option autoImplicit false

namespace FormulaAudit

/-- The natural number nearest to `num / den`, the even one of two. -/
def roundHalfEven (num den : Nat) : Nat :=
  let below := num / den
  let twice := 2 * (num % den)
  if twice < den ∨ (twice = den ∧ below % 2 = 0) then below else below + 1

theorem roundHalfEven_near (num : Nat) {den : Nat} (h : 0 < den) :
    2 * (roundHalfEven num den * den) ≤ 2 * num + den ∧
      2 * num ≤ 2 * (roundHalfEven num den * den) + den := by
  have split : num / den * den + num % den = num := Nat.div_add_mod' num den
  have below : num % den < den := Nat.mod_lt _ h
  unfold roundHalfEven
  dsimp only
  split
  · omega
  · rw [Nat.add_mul]
    omega

end FormulaAudit
