import ScriptCoverage.Proofs.Number.Rounding

/-!
# Where the range of numbers ends

What is rounded to 53 bits reaches a power of two from half a step below it on (`pow_le_roundUnits`, `roundUnits_lt_pow`):
the neighbour below is odd in its last bit, so the tie goes up. At the end of the range that decides which integers have
a number at all (`isFinite_ofInt_iff`).
-/

namespace ScriptCoverage

variable {num den : Nat}

theorem le_roundDiv_of_le (quotient : Nat) (h : quotient ≤ num / den) : quotient ≤ roundDiv num den := by
  unfold roundDiv
  dsimp only
  split
  · exact h
  · split <;> omega

/-- A ratio at most half below an even number is rounded up to it. -/
theorem two_mul_le_roundDiv {half : Nat} (h : 0 < den) (hnum : 4 * half * den ≤ 2 * num + den) :
    2 * half ≤ roundDiv num den := by
  have hsplit := Nat.div_add_mod num den
  have hmod := Nat.mod_lt num h
  rw [Nat.mul_comm] at hsplit
  have hquotient : 2 * half ≤ num / den + 1 := by
    by_contra hlt
    have hle : (num / den + 2) * den ≤ 2 * half * den := Nat.mul_le_mul_right den (by omega)
    have htwice : 4 * half * den = 2 * (2 * half * den) := by ring
    rw [Nat.add_mul] at hle
    omega
  by_cases hless : 2 * half ≤ num / den
  · exact le_roundDiv_of_le _ hless
  · -- one below an even number: the rest is at least one half, and a tie goes to the even neighbour
    have heven : num / den + 1 = 2 * half := by omega
    have hrest : den ≤ 2 * (num % den) := by
      have htwice : 4 * half * den = 2 * ((num / den + 1) * den) := by rw [heven]; ring
      rw [Nat.add_mul] at htwice
      omega
    unfold roundDiv
    dsimp only
    split
    · omega
    · split <;> omega

namespace Binary64

variable {p : Nat}

theorem roundUnits_one (num : Nat) : roundUnits num 1 = roundDiv num (spacing num) * spacing num := by
  rw [roundUnits, Nat.div_one, Nat.one_mul]

theorem spacing_of_log2 (h : num.log2 = p + 52) : spacing num = 2 ^ p := by
  change 2 ^ (num.log2 - 52) = _
  rw [h, Nat.add_sub_cancel]

/-- What is at most half a step below a power of two is rounded to it, or to something above it. -/
theorem pow_le_roundUnits (h : 2 ^ 54 * 2 ^ p ≤ num + 2 ^ p) : 2 ^ 54 * 2 ^ p ≤ roundUnits num 1 := by
  have hle : 2 ^ (p + 53) ≤ num := by
    rw [Nat.pow_add]
    generalize 2 ^ p = half at *
    omega
  have hpos : num ≠ 0 := Nat.ne_of_gt (Nat.lt_of_lt_of_le (Nat.two_pow_pos _) hle)
  rw [roundUnits_one]
  rcases Nat.eq_or_lt_of_le ((Nat.le_log2 hpos).2 hle) with heq | hgt
  · have hstep : 2 ^ (p + 1) = 2 * 2 ^ p := Nat.pow_succ'
    rw [spacing_of_log2 (p := p + 1) heq.symm, hstep]
    have hup : 2 * 2 ^ 52 ≤ roundDiv num (2 * 2 ^ p) := by
      refine two_mul_le_roundDiv (hstep ▸ Nat.two_pow_pos _) ?_
      generalize 2 ^ p = half at *
      omega
    have hmul := Nat.mul_le_mul_right (2 * 2 ^ p) hup
    generalize 2 ^ p = half at *
    omega
  · obtain ⟨more, hlog⟩ := Nat.exists_eq_add_of_lt hgt
    have hself : 2 ^ 52 * 2 ^ (p + more + 2) ≤ num := by
      rw [← Nat.pow_add, show 52 + (p + more + 2) = num.log2 by omega]
      exact Nat.log2_self_le hpos
    have hquotient : 2 ^ 52 ≤ num / 2 ^ (p + more + 2) := (Nat.le_div_iff_mul_le (Nat.two_pow_pos _)).2 hself
    rw [spacing_of_log2 (p := p + more + 2) (by omega)]
    refine Nat.le_trans ?_ (Nat.mul_le_mul_right _ (le_roundDiv_of_le _ hquotient))
    rw [← Nat.pow_add, ← Nat.pow_add]
    exact Nat.pow_le_pow_right (by decide) (by omega)

/-- What is more than half a step below a power of two stays below it. -/
theorem roundUnits_lt_pow (h : num + 2 ^ p < 2 ^ 54 * 2 ^ p) : roundUnits num 1 < 2 ^ 54 * 2 ^ p := by
  have hspacing : spacing num ≤ 2 ^ (p + 1) := by
    refine Nat.pow_le_pow_right (by decide) ?_
    by_cases hzero : num = 0
    · rw [hzero]
      exact Nat.le_trans (by decide) (Nat.zero_le _)
    · have hlt : num < 2 ^ (p + 54) := by
        rw [Nat.pow_add, Nat.mul_comm]
        omega
      have hlog := (Nat.log2_lt hzero).2 hlt
      omega
  have hle := roundDiv_le num (spacing_pos num)
  rw [Nat.pow_succ'] at hspacing
  rw [roundUnits_one]
  generalize 2 ^ p = half at *
  omega

/-- Half a step below the end of the range, in units. -/
theorem half_step_eq : 2 ^ (970 + 1074) = 2 ^ 970 * one := by decide +kernel

theorem limit_eq : limit = 2 ^ 54 * (2 ^ 970 * one) := by decide +kernel

/-- **The range of numbers.** The number nearest to an integer is finite up to half a step below 2 ^ 1024. -/
theorem isFinite_ofInt_iff (i : Int) : (ofInt i).isFinite = true ↔ i.natAbs + 2 ^ 970 < 2 ^ 1024 := by
  have hfinite : (ofInt i).isFinite = true ↔ roundUnits (i.natAbs * one) 1 < limit := by
    unfold ofInt ofRatio ofUnits
    dsimp only
    split
    · rename_i hlt
      exact iff_of_true rfl hlt
    · rename_i hge
      exact iff_of_false (by simp [isFinite]) hge
  have hpos : 0 < one := by decide +kernel
  have hend : 2 ^ 1024 = 2 ^ 54 * 2 ^ 970 := by decide +kernel
  have hlow := @roundUnits_lt_pow (i.natAbs * one) (970 + 1074)
  have hhigh := @pow_le_roundUnits (i.natAbs * one) (970 + 1074)
  rw [half_step_eq, ← Nat.add_mul, ← Nat.mul_assoc] at hlow hhigh
  rw [hfinite, limit_eq, hend, ← Nat.mul_assoc]
  constructor
  · intro hlt
    by_contra hge
    exact absurd hlt (Nat.not_lt.2 (hhigh (Nat.mul_le_mul_right one (Nat.not_lt.1 hge))))
  · intro hlt
    exact hlow (Nat.mul_lt_mul_of_pos_right hlt hpos)

end Binary64

end ScriptCoverage
