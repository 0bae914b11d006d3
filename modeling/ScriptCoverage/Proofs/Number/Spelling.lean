import ScriptCoverage.Number.Decimal

/-!
# Characters of written numbers

However a number is written, the text holds letters, digits, points and signs only, and it is not empty. So the end of a
number is found without reading it (`bare_text`, `bare_fixed`).
-/

namespace ScriptCoverage

/-- The characters that numbers and words are written with. -/
def isBare (c : Char) : Bool := c.isAlphanum || c == '.' || c == '-' || c == '+'

/-- A text of such characters. -/
def Bare (text : List Char) : Prop := ∀ c ∈ text, isBare c = true

instance (text : List Char) : Decidable (Bare text) := decidable_of_iff (text.all isBare = true) List.all_eq_true

namespace Bare

variable {first rest : List Char} {c : Char}

theorem append (h : Bare first) (hrest : Bare rest) : Bare (first ++ rest) := List.forall_mem_append.2 ⟨h, hrest⟩

theorem cons (h : isBare c = true) (hrest : Bare rest) : Bare (c :: rest) := List.forall_mem_cons.2 ⟨h, hrest⟩

theorem subset (h : Bare rest) (hsub : first ⊆ rest) : Bare first := fun c hc => h c (hsub hc)

theorem replicate (n : Nat) (h : isBare c = true) : Bare (List.replicate n c) := by
  intro d hd
  rw [List.eq_of_mem_replicate hd, h]

end Bare

theorem bare_decimalDigits (n : Nat) : Bare (decimalDigits n) := by
  intro c hc
  have hdigit : c.isDigit = true := Nat.isDigit_of_mem_toDigits (by decide) (by decide) hc
  simp [isBare, Char.isAlphanum, hdigit]

theorem decimalDigits_ne_nil (n : Nat) : decimalDigits n ≠ [] := by
  rw [decimalDigits, Nat.toDigits_eq_if (by decide)]
  split <;> simp

/-- Integers. -/
theorem bare_toString (i : Int) : Bare (toString i).toList ∧ (toString i).toList ≠ [] := by
  have hdigits (n : Nat) : n.repr.toList = decimalDigits n := Nat.toList_repr
  rw [Int.toString_eq_repr, Int.repr_eq_if]
  split
  · rw [hdigits]
    exact ⟨bare_decimalDigits _, decimalDigits_ne_nil _⟩
  · rw [String.toList_append, hdigits]
    exact ⟨(show Bare "-".toList by decide).append (bare_decimalDigits _),
      List.append_ne_nil_of_left_ne_nil (by decide) _⟩

namespace Binary64

variable {digits : List Char}

theorem bare_positional (h : Bare digits) (point : Int) : Bare (positional digits point) := by
  have hzeros (n : Nat) : Bare (List.replicate n '0') := .replicate n (by decide)
  unfold positional
  split
  · exact ((show Bare ['0', '.'] by decide).append (hzeros _)).append h
  · refine ((h.subset (List.take_subset _ _)).append (hzeros _)).append (.cons (by decide) ?_)
    split
    · decide
    · exact h.subset (List.drop_subset _ _)

theorem bare_exponential (h : Bare digits) (pointBeforeExponent : Bool) (point : Int) :
    Bare (exponential pointBeforeExponent digits point) := by
  have hmagnitude := bare_decimalDigits (point - 1).natAbs
  unfold exponential
  refine Bare.append ?_ (.cons (by decide) (.cons ?_ ?_))
  · split
    · refine h.append ?_
      split <;> decide
    · exact (h.subset (List.take_subset _ _)).append (.cons (by decide) (h.subset (List.drop_subset _ _)))
  · split <;> decide
  · split
    · exact .cons (by decide) hmagnitude
    · exact hmagnitude

theorem bare_magnitudeText (pointBeforeExponent : Bool) (units : Nat) :
    Bare (magnitudeText pointBeforeExponent units) := by
  have hdigits (d : Decimal) : Bare d.digits.1 := (bare_decimalDigits d.coefficient).subset fun c hc =>
    List.mem_reverse.1 ((List.dropWhile_sublist _).subset (List.mem_reverse.1 hc))
  unfold magnitudeText
  split
  · decide
  · dsimp only
    split
    · exact bare_positional (hdigits _) _
    · exact bare_exponential (hdigits _) _ _

theorem magnitudeText_ne_nil (pointBeforeExponent : Bool) (units : Nat) :
    magnitudeText pointBeforeExponent units ≠ [] := by
  unfold magnitudeText
  split
  · decide
  · dsimp only
    split
    · unfold positional
      split
      · simp
      · simp
    · simp [exponential]

theorem bare_signText (negative : Bool) : Bare (signText negative) := by
  cases negative <;> decide

/-- Numbers in reports. -/
theorem bare_text (x : Binary64) : Bare x.text.toList ∧ x.text.toList ≠ [] := by
  cases x with
  | nan bits => exact (show Bare "nan".toList ∧ "nan".toList ≠ [] by decide)
  | infinite negative =>
    rw [text, styled, String.toList_ofList]
    exact ⟨(bare_signText negative).append (by decide), List.append_ne_nil_of_right_ne_nil _ (by decide)⟩
  | finite negative units =>
    rw [text, styled, String.toList_ofList]
    exact ⟨(bare_signText negative).append (bare_magnitudeText _ units),
      List.append_ne_nil_of_right_ne_nil _ (magnitudeText_ne_nil _ units)⟩

/-- Numbers with a fixed number of places. -/
theorem bare_fixed (x : Binary64) (places : Nat) : Bare (x.fixed places).toList := by
  have hmagnitude (units : Nat) : Bare (fixedMagnitude places units) := by
    have hpadded : ∀ n m, Bare (List.replicate n '0' ++ decimalDigits m) :=
      fun n m => (Bare.replicate n (by decide)).append (bare_decimalDigits m)
    unfold fixedMagnitude
    dsimp only
    split
    · exact (hpadded _ _).subset (List.take_subset _ _)
    · exact ((hpadded _ _).subset (List.take_subset _ _)).append
        (.cons (by decide) ((hpadded _ _).subset (List.drop_subset _ _)))
  cases x with
  | nan bits => exact (show Bare "nan".toList by decide)
  | infinite negative =>
    rw [fixed, String.toList_ofList]
    exact (bare_signText negative).append (by decide)
  | finite negative units =>
    rw [fixed, String.toList_ofList]
    exact (bare_signText negative).append (hmagnitude units)

end Binary64

end ScriptCoverage
