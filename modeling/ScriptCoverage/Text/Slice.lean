/-!
# Slices

Source ranges count characters, and a range may lie outside the text. A slice never fails: a negative
position counts from the end, and positions beyond either end are moved to it.
-/

namespace ScriptCoverage

/-- The characters of a script. Offsets into it count code points. -/
abbrev Text := List Char

namespace Text

/-- Where a slice position falls in a text of `length` characters. -/
def clamp (length : Nat) (position : Int) : Nat :=
  if position < 0 then (position + length).toNat else min position.toNat length

/-- The characters from position `start` up to, not including, `stop`. -/
def slice (text : Text) (start stop : Int) : Text :=
  let first := clamp text.length start
  (text.take (clamp text.length stop)).drop first

/-- The characters from position `start` on. -/
def sliceFrom (text : Text) (start : Int) : Text := text.drop (clamp text.length start)

@[simp] theorem clamp_natCast (length n : Nat) : clamp length n = min n length := by
  simp only [clamp, Int.toNat_natCast]
  split <;> omega

theorem clamp_le (length : Nat) (position : Int) : clamp length position ≤ length := by
  unfold clamp
  split <;> omega

end Text

end ScriptCoverage
