import ScriptCoverage.Proofs.Report.Nesting
import ScriptCoverage.Proofs.Tree.Laminar
import ScriptCoverage.Proofs.Unit.Candidate
import ScriptCoverage.Proofs.Unit.Order

/-!
# Units nest

What an object of a laminar tree contributes lies in the range of the object, and is not inside anything that is
discovered later: `Node.Laminar.pairwise_outside`. This holds of the spans of switch cases too, which are the
range of no object. Source order keeps it, so the units of the tree are nested, outer ones first
(`discover_nested`).
-/

namespace ScriptCoverage

namespace Node

variable {node child x : Node} {c : Candidate}

/-- A candidate lies in the range of the object that contributes it. -/
theorem Laminar.contains_candidate (h : node.Laminar) (hc : c ∈ node.candidates) :
    ∃ range, node.range? = some range ∧ range.Contains c.span := by
  obtain ⟨range, hr⟩ := range?_of_isSyntax (isSyntax_of_mem_candidates hc)
  refine ⟨range, hr, ?_⟩
  cases contributes_of_mem hc with
  | block kind range_eq =>
    rw [range_eq, Option.some.injEq] at hr
    subst hr
    exact Span.Contains.refl _
  | branch kind mem range_eq => exact h.contains_of_mem_walk hr (mem_walk_of_mem_children mem) range_eq
  | body kind mem_first first_eq mem_last last_eq =>
    have hfirst := h.contains_of_mem_walk hr (mem_walk_of_mem_children mem_first) first_eq
    have hlast := h.contains_of_mem_walk hr (mem_walk_of_mem_children mem_last) last_eq
    exact ⟨hfirst.1, hlast.2⟩

theorem Laminar.of_mem_walk {root : Node} (h : root.Laminar) (hx : x ∈ root.walk) : x.Laminar := by
  induction root using induction_children with
  | step root ih =>
    rcases mem_walk_cons.1 hx with rfl | ⟨child, hc, hx⟩
    · exact h
    · exact ih child hc (h.of_mem_children hc) hx

/-- A candidate is not inside a range below the object that contributes it. -/
theorem Laminar.candidate_outside (h : node.Laminar) (hc : node.Contributes c) (hchild : child ∈ node.children)
    (hx : x ∈ child.walk) {r : Span} (hxr : x.range? = some r) : c.span.Outside r := by
  have hxn : x ∈ node.walk := mem_walk_trans (mem_walk_of_mem_children hchild) hx
  cases hc with
  | block kind range_eq => exact Or.inl (h.contains_of_mem_walk range_eq hxn hxr)
  | branch kind mem range_eq => exact h.outside mem range_eq hchild hx hxr
  | body kind mem_first first_eq mem_last last_eq =>
    exact Span.outside_of_ends (h.forward_of_mem_walk (mem_walk_of_mem_children mem_first) first_eq)
      (h.forward_of_mem_walk (mem_walk_of_mem_children mem_last) last_eq)
      (h.outside mem_first first_eq hchild hx hxr) (h.outside mem_last last_eq hchild hx hxr)

/-- **Discovery order.** No candidate of a laminar tree is inside one that is discovered later. -/
theorem Laminar.pairwise_outside {root : Node} (h : root.Laminar) :
    (root.walk.flatMap candidates).Pairwise fun a b => a.span.Outside b.span := by
  refine pairwise_walk (fun node hn child hc => Laminar.of_mem_children hn hc) ?own ?below ?apart root h
  case own =>
    intro node hn
    refine pairwise_candidates ?_
    intro c hc d hd r s hr hs
    exact hn.outside hc hr hd (mem_walk_self d) hs
  case below =>
    intro node hn child hc x hx a ha b hb
    obtain ⟨range, hr, hb⟩ := ((hn.of_mem_children hc).of_mem_walk hx).contains_candidate hb
    exact (hn.candidate_outside (contributes_of_mem ha) hc hx hr).mono hb
  case apart =>
    intro node hn
    refine List.pairwise_iff_getElem.2 ?_
    intro i j hi hj hij x hx y hy a ha b hb
    have hnx := (hn.of_mem_children (List.getElem_mem hi)).of_mem_walk hx
    have hny := (hn.of_mem_children (List.getElem_mem hj)).of_mem_walk hy
    obtain ⟨r, hr, ha⟩ := hnx.contains_candidate ha
    obtain ⟨s, hs, hb⟩ := hny.contains_candidate hb
    have hapart : r.Apart s := hn.apart_of_ne (List.getElem?_eq_getElem hi) (List.getElem?_eq_getElem hj)
      (Nat.ne_of_lt hij) hx hr hy hs
    exact Or.inr (hapart.mono ha hb)

end Node

namespace Registry

/-- A unit that contains another one and comes after it has the same range. -/
theorem span_eq_of_order {u v : CoverableUnit} (hc : u.span.Contains v.span)
    (h : v.start < u.start ∨ v.start = u.start ∧ v.span.Outside u.span) : u.span = v.span := by
  have hu := u.nonempty
  have hv := v.nonempty
  simp only [Span.Outside, Span.Contains, Span.Apart, CoverableUnit.span] at h hc
  simp only [CoverableUnit.span, Span.mk.injEq]
  omega

/-- **Units nest.** The units of a laminar tree are pairwise nested or apart, a unit that strictly contains another
one comes before it, and the markers of the units are properly nested. -/
theorem discover_nested (r : Registry) {root : Node} (h : root.Laminar) :
    (r.discover root).1.Pairwise (fun u v => u.span.Nested v.span) ∧
      (∀ (i j : Nat) (u v : CoverableUnit), (r.discover root).1[i]? = some u → (r.discover root).1[j]? = some v →
        u.span.Contains v.span → u.span ≠ v.span → i < j) ∧
      ProperlyNested (markerEvents (r.discover root).1) := by
  have hadded := pairwise_addAll r (h.pairwise_outside.filter Candidate.covers)
  have hnested : (r.discover root).1.Pairwise fun u v => u.span.Nested v.span :=
    (sorted_perm _).symm.pairwise (hadded.imp Span.Outside.nested) Span.Nested.symm
  refine ⟨hnested, ?_, markerEvents_nested hnested⟩
  intro i j u v hu hv hc hne
  obtain ⟨hi, rfl⟩ := List.getElem?_eq_some_iff.1 hu
  obtain ⟨hj, rfl⟩ := List.getElem?_eq_some_iff.1 hv
  rcases Nat.lt_trichotomy i j with hij | rfl | hji
  · exact hij
  · exact absurd rfl hne
  · have hsorted := List.pairwise_iff_getElem.1 (sorted_pairwise hadded) j i hj hi hji
    exact absurd (span_eq_of_order hc hsorted) hne

/-- The tree of `switch(a){case 1:b;c}`, with a unit that is the range of no node. -/
def switchRoot : Node :=
  .mk (some "Program") (some ⟨0, 21⟩) [(.text "body", .list [syntaxTree "SwitchStatement" 0 21 [
    ("discriminant", syntaxTree "Identifier" 7 8 []),
    ("cases", .list [syntaxTree "SwitchCase" 10 20 [
      ("test", syntaxTree "Literal" 15 16 []),
      ("consequent", .list [syntaxTree "ExpressionStatement" 17 19 [], syntaxTree "ExpressionStatement" 19 20 []])]])]])]

theorem discover_nested_switch :
    let units := (discover { source := "switch(a){case 1:b;c}".toList } switchRoot).1
    units.Pairwise (fun u v => u.span.Nested v.span) ∧
      (∀ (i j : Nat) (u v : CoverableUnit), units[i]? = some u → units[j]? = some v → u.span.Contains v.span →
        u.span ≠ v.span → i < j) ∧
      ProperlyNested (markerEvents units) := by
  have hlaminar : switchRoot.Laminar := by decide +kernel
  exact discover_nested { source := "switch(a){case 1:b;c}".toList } hlaminar

end Registry

end ScriptCoverage
