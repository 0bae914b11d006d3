import ScriptCoverage.Proofs.Number.Rounding
import ScriptCoverage.Unit.Summary

/-!
# Percentages against thresholds

The percentage of two counts is rounded twice: as a quotient, and once more when that is scaled by a hundred. So
it may miss a whole threshold that the counts meet exactly. Which thresholds these are does not depend on the
counts (`passed_of_met`): 29, 57 and 58. A threshold that is not met exactly is told from the percentage rightly
unless the two differ by less than two parts in 2 ^ 53 (`le_of_passed`, `lt_of_not_passed`), and counts of up to
2 ^ 45 units never come that close (`passed_iff`).
-/

namespace ScriptCoverage

namespace Binary64

theorem one_pos : 0 < one := by decide +kernel

/-- There is room for a thousand in the range of numbers, and for 60 bits below one. -/
theorem one_within : 1000 * one < limit ∧ 2 ^ 60 ≤ one := by decide +kernel

/-- A whole threshold is a number as it is. -/
theorem ofInt_percent : ∀ threshold : Nat, threshold ≤ 100 → ofInt threshold = finite false (threshold * one) := by
  decide +kernel

end Binary64

open Binary64

namespace Summary

/-- The percentage of two counts in units of a binary64 number. -/
def percentUnits (executed total : Nat) : Nat := roundUnits (roundUnits (executed * one) total * 100) 1

variable {executed total threshold : Nat}

/-- Scaling at most doubles a share too, so it leaves small shares small. -/
theorem percentUnits_le {bound : Nat} (h : roundUnits (executed * one) total ≤ bound) :
    percentUnits executed total ≤ 200 * bound + 1 := by
  unfold percentUnits
  have hscaled := roundUnits_le_two_mul (100 * bound) Nat.one_pos
    (show roundUnits (executed * one) total * 100 ≤ 100 * bound * 1 by omega)
  omega

theorem percentage_eq (hpos : 0 < total) (hle : executed ≤ total) :
    (Summary.mk total executed).percentage = .finite false (percentUnits executed total) := by
  have hone := one_within
  have hshare : roundUnits (executed * one) total ≤ 2 * one + 1 :=
    roundUnits_le_two_mul one hpos (by rw [Nat.mul_comm one]; exact Nat.mul_le_mul_right _ hle)
  have hpercent := percentUnits_le hshare
  have hsign : (decide ((executed : Int) < 0) != decide ((total : Int) < 0)) = false := by
    simp [Int.not_lt.2 (Int.natCast_nonneg _)]
  have hquotient : Binary64.quotient executed total = .finite false (roundUnits (executed * one) total) := by
    simp only [quotient, hsign, Int.natAbs_natCast, ofRatio]
    exact ofUnits_of_lt (by omega) false
  have hne : ¬ (total : Int) = 0 := by omega
  simp only [percentage, share, hne, if_false, hquotient, scale]
  exact ofUnits_of_lt (by unfold percentUnits at hpercent; omega) false

theorem passed_iff_le_percentUnits (hpos : 0 < total) (hle : executed ≤ total) (ht : threshold ≤ 100) :
    (Summary.mk total executed).passed (Binary64.ofInt threshold) = true ↔
      threshold * one ≤ percentUnits executed total := by
  rw [passed, percentage_eq hpos hle, ofInt_percent threshold ht]
  simp only [Binary64.le, signedUnits, Bool.false_eq_true, if_false, decide_eq_true_eq, Int.ofNat_le]

/-! ## Thresholds that are met exactly -/

/-- Equal shares have equal percentages. -/
theorem percentUnits_of_met (hpos : 0 < total) (h : threshold * total = 100 * executed) :
    percentUnits executed total = percentUnits threshold 100 := by
  have hshare : roundUnits (executed * one) total = roundUnits (threshold * one) 100 := by
    calc roundUnits (executed * one) total = roundUnits (100 * (executed * one)) (100 * total) :=
          (roundUnits_mul (by decide) _ _).symm
      _ = roundUnits (total * (threshold * one)) (total * 100) := by
          rw [← Nat.mul_assoc, ← h, Nat.mul_comm 100 total, Nat.mul_comm threshold total, Nat.mul_assoc]
      _ = roundUnits (threshold * one) 100 := roundUnits_mul hpos _ _
  rw [percentUnits, percentUnits, hshare]

/-- **The missed thresholds.** Whether a threshold that is met exactly counts as reached depends on the threshold
alone. -/
theorem passed_of_met (hpos : 0 < total) (hle : executed ≤ total) (ht : threshold ≤ 100)
    (h : threshold * total = 100 * executed) :
    (Summary.mk total executed).passed (Binary64.ofInt threshold) = true ↔ threshold ∉ [29, 57, 58] := by
  have hmissed : ∀ t : Nat, t ≤ 100 → (t * one ≤ percentUnits t 100 ↔ t ∉ [29, 57, 58]) := by decide +kernel
  rw [passed_iff_le_percentUnits hpos hle ht, percentUnits_of_met hpos h]
  exact hmissed threshold ht

/-! ## Thresholds that are not met exactly -/

/-- A share of 53 bits, times a hundred, has 53 bits too. -/
theorem normal_scaled (hpos : 0 < total) (hnormal : 2 ^ 52 * total ≤ executed * one) :
    2 ^ 52 * 1 ≤ roundUnits (executed * one) total * 100 := by
  have hround := le_roundUnits hpos hnormal
  have hlarge : (2 ^ 52 - 1) * total ≤ roundUnits (executed * one) total * total := by omega
  have := Nat.le_of_mul_le_mul_right hlarge hpos
  omega

/-- The percentage of a tiny share is tiny. -/
theorem percentUnits_of_small (hpos : 0 < total) (hsmall : executed * one < 2 ^ 52 * total) :
    percentUnits executed total < one := by
  have hshare := roundUnits_lt_of_small hpos hsmall
  have hpercent := percentUnits_le hshare
  have := one_within.2
  omega

/-- A threshold that counts as reached is short by less than two parts in 2 ^ 53. -/
theorem le_of_passed (hpos : 0 < total) (hle : executed ≤ total) (ht : threshold ≤ 100)
    (h : (Summary.mk total executed).passed (Binary64.ofInt threshold) = true) :
    (2 ^ 53) ^ 2 * (threshold * total) ≤ (2 ^ 53 + 1) ^ 2 * (100 * executed) := by
  rw [passed_iff_le_percentUnits hpos hle ht] at h
  by_cases hnormal : 2 ^ 52 * total ≤ executed * one
  · have hfirst := roundUnits_le hpos hnormal
    have hsecond := roundUnits_le Nat.one_pos (normal_scaled hpos hnormal)
    rw [Nat.mul_one] at hsecond
    refine Nat.le_of_mul_le_mul_right (c := one) ?_ Binary64.one_pos
    calc (2 ^ 53) ^ 2 * (threshold * total) * one = 2 ^ 53 * (2 ^ 53 * (threshold * one)) * total := by ring
      _ ≤ 2 ^ 53 * ((2 ^ 53 + 1) * (roundUnits (executed * one) total * 100)) * total :=
          Nat.mul_le_mul_right _ (Nat.mul_le_mul_left _ ((Nat.mul_le_mul_left _ h).trans hsecond))
      _ = (2 ^ 53 + 1) * 100 * (2 ^ 53 * (roundUnits (executed * one) total * total)) := by ring
      _ ≤ (2 ^ 53 + 1) * 100 * ((2 ^ 53 + 1) * (executed * one)) := Nat.mul_le_mul_left _ hfirst
      _ = (2 ^ 53 + 1) ^ 2 * (100 * executed) * one := by ring
  · have hzero : threshold = 0 := by
      have hlt := Nat.lt_of_le_of_lt h (percentUnits_of_small hpos (Nat.lt_of_not_le hnormal))
      by_contra hne
      have := Nat.mul_le_mul_right one (Nat.one_le_iff_ne_zero.2 hne)
      omega
    rw [hzero, Nat.zero_mul, Nat.mul_zero]
    exact Nat.zero_le _

/-- A threshold that does not count as reached is exceeded by less than two parts in 2 ^ 53. -/
theorem lt_of_not_passed (hpos : 0 < total) (hle : executed ≤ total) (ht : threshold ≤ 100)
    (h : ¬ (Summary.mk total executed).passed (Binary64.ofInt threshold) = true) :
    (2 ^ 53 - 1) ^ 2 * (100 * executed) < (2 ^ 53) ^ 2 * (threshold * total) := by
  rw [passed_iff_le_percentUnits hpos hle ht, Nat.not_le] at h
  refine Nat.lt_of_mul_lt_mul_right (a := one) ?_
  by_cases hnormal : 2 ^ 52 * total ≤ executed * one
  · have hfirst := le_roundUnits hpos hnormal
    have hsecond := le_roundUnits Nat.one_pos (normal_scaled hpos hnormal)
    rw [Nat.mul_one] at hsecond
    calc (2 ^ 53 - 1) ^ 2 * (100 * executed) * one = (2 ^ 53 - 1) * 100 * ((2 ^ 53 - 1) * (executed * one)) := by ring
      _ ≤ (2 ^ 53 - 1) * 100 * (2 ^ 53 * (roundUnits (executed * one) total * total)) := Nat.mul_le_mul_left _ hfirst
      _ = 2 ^ 53 * ((2 ^ 53 - 1) * (roundUnits (executed * one) total * 100)) * total := by ring
      _ ≤ 2 ^ 53 * (2 ^ 53 * percentUnits executed total) * total :=
          Nat.mul_le_mul_right _ (Nat.mul_le_mul_left _ hsecond)
      _ < 2 ^ 53 * (2 ^ 53 * (threshold * one)) * total :=
          Nat.mul_lt_mul_of_pos_right (Nat.mul_lt_mul_of_pos_left (Nat.mul_lt_mul_of_pos_left h (by decide))
            (by decide)) hpos
      _ = (2 ^ 53) ^ 2 * (threshold * total) * one := by ring
  · have hthreshold : 1 ≤ threshold := Nat.pos_of_ne_zero fun h0 => by simp [h0] at h
    have hone := one_within.2
    calc (2 ^ 53 - 1) ^ 2 * (100 * executed) * one = (2 ^ 53 - 1) ^ 2 * 100 * (executed * one) := by ring
      _ ≤ (2 ^ 53 - 1) ^ 2 * 100 * (2 ^ 52 * total) := Nat.mul_le_mul_left _ (Nat.le_of_not_le hnormal)
      _ = (2 ^ 53 - 1) ^ 2 * (100 * 2 ^ 52) * total := by ring
      _ < (2 ^ 53) ^ 2 * one * total := Nat.mul_lt_mul_of_pos_right (by omega) hpos
      _ ≤ (2 ^ 53) ^ 2 * one * total * threshold := Nat.le_mul_of_pos_right _ hthreshold
      _ = (2 ^ 53) ^ 2 * (threshold * total) * one := by ring

/-- **The gate.** With up to 2 ^ 45 units a whole threshold counts as reached exactly if the units reach it, except
that 29, 57 and 58 have to be exceeded. -/
theorem passed_iff (hpos : 0 < total) (hle : executed ≤ total) (ht : threshold ≤ 100) (hmany : total ≤ 2 ^ 45) :
    (Summary.mk total executed).passed (Binary64.ofInt threshold) = true ↔
      threshold * total ≤ 100 * executed ∧ (threshold * total = 100 * executed → threshold ∉ [29, 57, 58]) := by
  have hbound : threshold * total ≤ 100 * 2 ^ 45 := Nat.mul_le_mul ht hmany
  by_cases hmet : threshold * total = 100 * executed
  · rw [passed_of_met hpos hle ht hmet]
    exact ⟨fun h => ⟨Nat.le_of_eq hmet, fun _ => h⟩, fun h => h.2 hmet⟩
  · constructor
    · intro h
      have := le_of_passed hpos hle ht h
      exact ⟨by omega, fun h => absurd h hmet⟩
    · intro ⟨hreached, _⟩
      by_contra h
      have := lt_of_not_passed hpos hle ht h
      omega

end Summary

end ScriptCoverage
