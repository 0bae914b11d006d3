import ScriptCoverage.Text.Slice

/-!
# Slices within the text

Between positions that lie within the text a slice is the characters between them: slices that meet make up
the longer one, and a text is cut where it was put together.
-/

namespace ScriptCoverage.Text

theorem clamp_of_within {length : Nat} {position : Int} (h : 0 ≤ position) (hl : position ≤ length) :
    clamp length position = position.toNat := by
  unfold clamp
  split <;> omega

theorem length_slice {text : Text} {start stop : Int} (h : 0 ≤ start) (hs : start ≤ stop)
    (hl : stop ≤ text.length) : ((slice text start stop).length : Int) = stop - start := by
  have hstart := clamp_of_within h (Int.le_trans hs hl)
  have hstop := clamp_of_within (Int.le_trans h hs) hl
  simp only [slice, hstart, hstop, List.length_drop, List.length_take]
  omega

theorem clamp_mono (length : Nat) {start stop : Int} (h : 0 ≤ start) (hs : start ≤ stop) :
    clamp length start ≤ clamp length stop := by
  unfold clamp
  split <;> split <;> omega

theorem slice_append_sliceFrom {text : Text} {start stop : Int} (h : 0 ≤ start) (hs : start ≤ stop) :
    slice text start stop ++ sliceFrom text stop = sliceFrom text start := by
  have hle : clamp text.length start ≤ (text.take (clamp text.length stop)).length := by
    have hmono := clamp_mono text.length h hs
    have hbound := clamp_le text.length stop
    rw [List.length_take]
    omega
  simp only [slice, sliceFrom]
  rw [← List.drop_append_of_le_length hle, List.take_append_drop]

/-- What stands before a slice, with the slice, is what stands before its end. -/
theorem take_append_slice {text : Text} {start stop : Int} (h : 0 ≤ start) (hs : start ≤ stop) :
    text.take (clamp text.length start) ++ slice text start stop = text.take (clamp text.length stop) := by
  have htake : (text.take (clamp text.length stop)).take (clamp text.length start) =
      text.take (clamp text.length start) := by
    rw [List.take_take, Nat.min_eq_left (clamp_mono text.length h hs)]
  rw [← htake, slice, List.take_append_drop]

/-- Cutting a text at the end of its first part. -/
theorem sliceFrom_append {first rest : Text} {start : Int} (h : start = first.length) :
    sliceFrom (first ++ rest) start = rest := by
  subst h
  simp [sliceFrom]

/-- Cutting the second of three parts out of a text. -/
theorem slice_append {first middle rest : Text} {start stop : Int} (h : start = first.length)
    (hs : stop = first.length + middle.length) : slice (first ++ (middle ++ rest)) start stop = middle := by
  subst h hs
  have hstop : clamp (first ++ (middle ++ rest)).length (first.length + middle.length : Int) =
      (first ++ middle).length := by
    rw [clamp_of_within (by omega) (by simp only [List.length_append]; omega)]
    simp only [List.length_append]
    omega
  have hstart : clamp (first ++ (middle ++ rest)).length (first.length : Int) = first.length := by simp
  simp only [slice, hstop, hstart]
  rw [← List.append_assoc, List.take_left, List.drop_left]

end ScriptCoverage.Text
