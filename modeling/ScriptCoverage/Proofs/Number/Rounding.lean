import ScriptCoverage.Number.Binary64
import Mathlib.Tactic.Ring

/-!
# How far a rounding goes

Rounding to the nearest of two neighbours moves a ratio by at most half their distance. At 2 ^ 52 units and more
that is at most one part in 2 ^ 53 of the ratio (`roundUnits_le`, `le_roundUnits`), below it is half a unit
(`roundUnits_lt_of_small`). Rounding sees a ratio and not how it is written (`roundUnits_mul`), so what happens at
a ratio that many pairs share can be evaluated at one of them.
-/

namespace ScriptCoverage

/-! ## Quotients to the nearest -/

theorem roundDiv_le (num : Nat) {den : Nat} (h : 0 < den) : 2 * (roundDiv num den * den) ≤ 2 * num + den := by
  have hsplit := Nat.div_add_mod num den
  have hmod := Nat.mod_lt num h
  rw [Nat.mul_comm] at hsplit
  unfold roundDiv
  dsimp only
  split
  · omega
  · split
    · rw [Nat.add_mul]; omega
    · have hbit := Nat.mod_lt (num / den) (by decide : 0 < 2)
      have hle := Nat.mul_le_mul_right den (Nat.le_of_lt_succ hbit)
      rw [Nat.add_mul]; omega

theorem le_roundDiv (num : Nat) {den : Nat} (h : 0 < den) : 2 * num ≤ 2 * (roundDiv num den * den) + den := by
  have hsplit := Nat.div_add_mod num den
  have hmod := Nat.mod_lt num h
  rw [Nat.mul_comm] at hsplit
  unfold roundDiv
  dsimp only
  split
  · omega
  · split
    · rw [Nat.add_mul]; omega
    · rw [Nat.add_mul]; omega

/-- A quotient to the nearest does not depend on how the ratio is written. -/
theorem roundDiv_mul {k : Nat} (h : 0 < k) (num den : Nat) : roundDiv (k * num) (k * den) = roundDiv num den := by
  have hlt : ∀ a b : Nat, k * a < k * b ↔ a < b := fun a b => Nat.mul_lt_mul_left h
  unfold roundDiv
  simp only [Nat.mul_div_mul_left _ _ h, Nat.mul_mod_mul_left, Nat.mul_left_comm 2 k, hlt]

namespace Binary64

theorem spacing_pos (units : Nat) : 0 < spacing units := Nat.pow_pos (by decide)

/-- Neighbours are a whole number of units apart, and at most one part in 2 ^ 52. -/
theorem spacing_le (units : Nat) : 2 ^ 52 * spacing units ≤ max units (2 ^ 52) := by
  unfold spacing
  change 2 ^ 52 * 2 ^ (units.log2 - 52) ≤ _
  by_cases h : units.log2 ≤ 52
  · rw [Nat.sub_eq_zero_of_le h]
    exact Nat.le_max_right _ _
  · rw [← Nat.pow_add, Nat.add_sub_cancel' (by omega)]
    refine Nat.le_trans (Nat.log2_self_le ?_) (Nat.le_max_left _ _)
    intro h0
    rw [h0] at h
    exact h (by decide)

theorem roundUnits_mul {k : Nat} (h : 0 < k) (num den : Nat) : roundUnits (k * num) (k * den) = roundUnits num den := by
  unfold roundUnits
  simp only [Nat.mul_div_mul_left _ _ h, Nat.mul_assoc k den, roundDiv_mul h]

/-- Half the distance of the neighbours of a ratio, in multiples of the denominator. -/
theorem spacing_quotient_le (num den : Nat) : 2 ^ 52 * (den * spacing (num / den)) ≤ max num (2 ^ 52 * den) := by
  calc 2 ^ 52 * (den * spacing (num / den)) = den * (2 ^ 52 * spacing (num / den)) := by ring
    _ ≤ den * max (num / den) (2 ^ 52) := Nat.mul_le_mul_left _ (spacing_le _)
    _ = max (den * (num / den)) (2 ^ 52 * den) := by rw [Nat.mul_comm (2 ^ 52) den, Nat.mul_max_mul_left]
    _ ≤ max num (2 ^ 52 * den) := max_le_max_right _ (Nat.mul_div_le num den)

theorem roundUnits_le_add (num : Nat) {den : Nat} (h : 0 < den) :
    2 ^ 53 * (roundUnits num den * den) ≤ 2 ^ 53 * num + max num (2 ^ 52 * den) := by
  have hstep : 0 < den * spacing (num / den) := Nat.mul_pos h (spacing_pos _)
  have hround := roundDiv_le num hstep
  have hspacing := spacing_quotient_le num den
  have heq : roundUnits num den * den = roundDiv num (den * spacing (num / den)) * (den * spacing (num / den)) := by
    unfold roundUnits; ring
  omega

theorem le_roundUnits_add (num : Nat) {den : Nat} (h : 0 < den) :
    2 ^ 53 * num ≤ 2 ^ 53 * (roundUnits num den * den) + max num (2 ^ 52 * den) := by
  have hstep : 0 < den * spacing (num / den) := Nat.mul_pos h (spacing_pos _)
  have hround := le_roundDiv num hstep
  have hspacing := spacing_quotient_le num den
  have heq : roundUnits num den * den = roundDiv num (den * spacing (num / den)) * (den * spacing (num / den)) := by
    unfold roundUnits; ring
  omega

variable {num den : Nat}

/-- A rounding at most doubles a ratio, but for what is less than one unit. -/
theorem roundUnits_le_two_mul (bound : Nat) (h : 0 < den) (hb : num ≤ bound * den) :
    roundUnits num den ≤ 2 * bound + 1 := by
  have hadd := roundUnits_le_add num h
  have hmax : max num (2 ^ 52 * den) ≤ num + 2 ^ 52 * den := by omega
  refine Nat.le_of_mul_le_mul_right (c := den) ?_ h
  rw [Nat.add_mul, Nat.mul_assoc]
  omega

/-- A ratio within the range of numbers is rounded to a finite one. -/
theorem ofUnits_of_lt (h : roundUnits num den < limit) (negative : Bool) :
    ofUnits negative num den = finite negative (roundUnits num den) := by
  simp only [ofUnits, if_pos h]

/-! ## Relative errors -/

/-- A ratio that is rounded to 53 bits grows by at most one part in 2 ^ 53. -/
theorem roundUnits_le (h : 0 < den) (hnormal : 2 ^ 52 * den ≤ num) :
    2 ^ 53 * (roundUnits num den * den) ≤ (2 ^ 53 + 1) * num := by
  have hadd := roundUnits_le_add num h
  rw [max_eq_left hnormal] at hadd
  omega

/-- A ratio that is rounded to 53 bits shrinks by at most one part in 2 ^ 53. -/
theorem le_roundUnits (h : 0 < den) (hnormal : 2 ^ 52 * den ≤ num) :
    (2 ^ 53 - 1) * num ≤ 2 ^ 53 * (roundUnits num den * den) := by
  have hadd := le_roundUnits_add num h
  rw [max_eq_left hnormal] at hadd
  omega

/-- A small ratio stays small. -/
theorem roundUnits_lt_of_small (h : 0 < den) (hsmall : num < 2 ^ 52 * den) : roundUnits num den ≤ 2 ^ 52 := by
  have hadd := roundUnits_le_add num h
  rw [max_eq_right (Nat.le_of_lt hsmall)] at hadd
  have hlt : 2 * roundUnits num den * den < (2 ^ 53 + 1) * den := by
    rw [Nat.mul_assoc]
    omega
  have := Nat.lt_of_mul_lt_mul_right hlt
  omega

end Binary64

end ScriptCoverage
