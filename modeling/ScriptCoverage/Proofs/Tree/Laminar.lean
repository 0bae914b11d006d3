import ScriptCoverage.Proofs.Tree.Place

/-!
# Laminar trees

The ranges of a parser's tree follow its shape: a range holds the ranges below it, and ranges of which neither
lies above the other have no character in common. `Node.Laminar` says this of places, so it passes to the
children, and `Node.Laminar.holds_or_apart` is its use for the ranges under the children of one object.
-/

namespace ScriptCoverage

/-! ## Spans -/

namespace Span

/-- Every position of the second span lies in the first. -/
def Contains (a b : Span) : Prop := a.start ≤ b.start ∧ b.stop ≤ a.stop

/-- One span ends at or before the start of the other. -/
def Apart (a b : Span) : Prop := a.stop ≤ b.start ∨ b.stop ≤ a.start

/-- One span lies in the other, or they are apart. -/
def Nested (a b : Span) : Prop := a.Contains b ∨ b.Contains a ∨ a.Apart b

/-- The first span is not inside the second: it contains it, or they are apart. -/
def Outside (a b : Span) : Prop := a.Contains b ∨ a.Apart b

instance (a b : Span) : Decidable (a.Contains b) := inferInstanceAs (Decidable (_ ∧ _))

instance (a b : Span) : Decidable (a.Apart b) := inferInstanceAs (Decidable (_ ∨ _))

theorem Contains.refl (a : Span) : a.Contains a := ⟨Int.le_refl _, Int.le_refl _⟩

theorem Contains.trans {a b c : Span} (h : a.Contains b) (h' : b.Contains c) : a.Contains c :=
  ⟨Int.le_trans h.1 h'.1, Int.le_trans h'.2 h.2⟩

theorem Apart.symm {a b : Span} (h : a.Apart b) : b.Apart a := h.elim Or.inr Or.inl

/-- Spans inside spans that are apart are apart. -/
theorem Apart.mono {a b c d : Span} (h : a.Apart b) (ha : a.Contains c) (hb : b.Contains d) : c.Apart d := by
  simp only [Apart, Contains] at *
  omega

/-- What is outside a span is outside of all that this contains. -/
theorem Outside.mono {a b c : Span} (h : a.Outside b) (hc : b.Contains c) : a.Outside c := by
  rcases h with h | h
  · exact Or.inl (h.trans hc)
  · exact Or.inr (h.mono (Contains.refl a) hc)

theorem Outside.nested {a b : Span} (h : a.Outside b) : a.Nested b := h.imp_right Or.inr

theorem Nested.symm {a b : Span} (h : a.Nested b) : b.Nested a := by
  rcases h with h | h | h
  · exact Or.inr (Or.inl h)
  · exact Or.inl h
  · exact Or.inr (Or.inr h.symm)

/-- The span from the start of one span to the end of another is outside of what both are outside of. -/
theorem outside_of_ends {first last a : Span} (hfirst : first.start ≤ first.stop) (hlast : last.start ≤ last.stop)
    (hfa : first.Outside a) (hla : last.Outside a) : Span.Outside ⟨first.start, last.stop⟩ a := by
  simp only [Outside, Contains, Apart] at *
  omega

end Span

/-! ## Trees -/

namespace Node

/-- Ranges go forwards, hold the ranges below them, and are apart from all that are neither above nor below. -/
structure Laminar (root : Node) : Prop where
  forward : ∀ place range, root.rangeAt? place = some range → range.start ≤ range.stop
  holds : ∀ place other range otherRange, root.rangeAt? place = some range → root.rangeAt? other = some otherRange →
    place <+: other → range.Contains otherRange
  apart : ∀ place other range otherRange, root.rangeAt? place = some range → root.rangeAt? other = some otherRange →
    ¬ place <+: other → ¬ other <+: place → range.Apart otherRange

/-- `Laminar` of the places that a tree has. -/
theorem laminar_iff {root : Node} : root.Laminar ↔ ∀ place ∈ root.places, ∀ range ∈ root.rangeAt? place,
    range.start ≤ range.stop ∧ ∀ other ∈ root.places, ∀ otherRange ∈ root.rangeAt? other,
      if place <+: other then range.Contains otherRange
      else ¬ other <+: place → range.Apart otherRange := by
  constructor
  · intro h place _ range hr
    refine ⟨h.forward place range hr, fun other _ otherRange ho => ?_⟩
    split
    · exact h.holds place other range otherRange hr ho ‹_›
    · exact h.apart place other range otherRange hr ho ‹_›
  · intro h
    have hpair : ∀ place other range otherRange, root.rangeAt? place = some range →
        root.rangeAt? other = some otherRange →
        if place <+: other then range.Contains otherRange else ¬ other <+: place → range.Apart otherRange :=
      fun place other range otherRange hr ho =>
        (h place (mem_places_of_rangeAt? hr) range hr).2 other (mem_places_of_rangeAt? ho) otherRange ho
    refine ⟨fun place range hr => (h place (mem_places_of_rangeAt? hr) range hr).1, ?_, ?_⟩
    · intro place other range otherRange hr ho hle
      have := hpair place other range otherRange hr ho
      rwa [if_pos hle] at this
    · intro place other range otherRange hr ho hle
      have := hpair place other range otherRange hr ho
      rwa [if_neg hle] at this

instance (root : Node) : Decidable root.Laminar := decidable_of_iff' _ laminar_iff

namespace Laminar

variable {node child x y : Node} {range r s : Span} {i j : Nat}

theorem of_mem_children (h : node.Laminar) (hc : child ∈ node.children) : child.Laminar := by
  obtain ⟨i, hi⟩ := List.mem_iff_getElem?.1 hc
  refine ⟨?_, ?_, ?_⟩
  · intro place range hr
    exact h.forward (i :: place) range (by rw [rangeAt?_cons hi, hr])
  · intro place other range otherRange hr ho hle
    exact h.holds (i :: place) (i :: other) range otherRange (by rw [rangeAt?_cons hi, hr])
      (by rw [rangeAt?_cons hi, ho]) (List.cons_prefix_cons.2 ⟨rfl, hle⟩)
  · intro place other range otherRange hr ho hle hle'
    refine h.apart (i :: place) (i :: other) range otherRange (by rw [rangeAt?_cons hi, hr])
      (by rw [rangeAt?_cons hi, ho]) ?_ ?_
    · exact fun hp => hle (List.cons_prefix_cons.1 hp).2
    · exact fun hp => hle' (List.cons_prefix_cons.1 hp).2

/-- The range of an object goes forwards and holds all ranges under it. -/
theorem contains_of_mem_walk (h : node.Laminar) (hr : node.range? = some range) (hx : x ∈ node.walk)
    (hxr : x.range? = some r) : range.Contains r := by
  obtain ⟨place, hp⟩ := mem_walk.1 hx
  exact h.holds [] place range r hr (by rw [rangeAt?_of_at? hp, hxr]) (List.nil_prefix)

theorem forward_of_mem_walk (h : node.Laminar) (hx : x ∈ node.walk) (hxr : x.range? = some r) : r.start ≤ r.stop := by
  obtain ⟨place, hp⟩ := mem_walk.1 hx
  exact h.forward place r (by rw [rangeAt?_of_at? hp, hxr])

/-- The ranges under two children are apart. -/
theorem apart_of_ne (h : node.Laminar) (hi : node.children[i]? = some child) {other : Node}
    (hj : node.children[j]? = some other) (hij : i ≠ j) (hx : x ∈ child.walk) (hxr : x.range? = some r)
    (hy : y ∈ other.walk) (hys : y.range? = some s) : r.Apart s := by
  obtain ⟨p, hp⟩ := mem_walk.1 hx
  obtain ⟨q, hq⟩ := mem_walk.1 hy
  refine h.apart (i :: p) (j :: q) r s (by rw [rangeAt?_cons hi, rangeAt?_of_at? hp, hxr])
    (by rw [rangeAt?_cons hj, rangeAt?_of_at? hq, hys]) ?_ ?_
  · exact fun hle => hij (List.cons_prefix_cons.1 hle).1
  · exact fun hle => hij (List.cons_prefix_cons.1 hle).1.symm

/-- The range of a child is not inside a range under another child, or under itself. -/
theorem outside (h : node.Laminar) (hc : child ∈ node.children) (hr : child.range? = some range) {other : Node}
    (ho : other ∈ node.children) (hx : x ∈ other.walk) (hxr : x.range? = some r) : range.Outside r := by
  obtain ⟨i, hi⟩ := List.mem_iff_getElem?.1 hc
  obtain ⟨j, hj⟩ := List.mem_iff_getElem?.1 ho
  by_cases hij : i = j
  · subst hij
    rw [hi, Option.some.injEq] at hj
    subst hj
    exact Or.inl ((h.of_mem_children hc).contains_of_mem_walk hr hx hxr)
  · exact Or.inr (h.apart_of_ne hi hj hij (mem_walk_self child) hr hx hxr)

end Laminar

end Node

end ScriptCoverage
