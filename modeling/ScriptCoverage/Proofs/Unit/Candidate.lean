import ScriptCoverage.Proofs.Tree.Place
import ScriptCoverage.Proofs.Value.Mapping
import ScriptCoverage.Unit.Discovery

/-!
# What an object contributes

Every candidate goes back to ranges of syntax nodes: of the object itself, of a child, or of two children,
the first and the last statement of a switch case. `Node.Contributes` has a rule for each, and
`Node.contributes_of_mem` says that there is no other way.
-/

namespace ScriptCoverage

theorem Tree.mem_objectsOfList {child : Node} {item : Tree} {items : List Tree} (h : item ∈ items)
    (hc : child ∈ item.objects) : child ∈ Tree.objects.objectsOfList items := by
  induction items with
  | nil => cases h
  | cons x rest ih =>
    simp only [Tree.objects.objectsOfList, List.mem_append]
    rcases List.mem_cons.1 h with rfl | h
    · exact Or.inl hc
    · exact Or.inr (ih h)

namespace Node

/-- The objects of a field are children. -/
theorem mem_children_of_field? {node child : Node} {name : String} {part : Tree}
    (h : node.field? name = some part) (hc : child ∈ part.objects) : child ∈ node.children := by
  obtain ⟨key, hk, -⟩ := Mapping.mem_of_find? h
  exact List.mem_flatMap.2 ⟨(key, part), hk, hc⟩

/-- How an object comes to contribute a candidate. -/
inductive Contributes (node : Node) : Candidate → Prop where
  | block {range : Span} (kind : node.kind = .program ∨ node.kind = .blockStatement)
      (range_eq : node.range? = some range) : Contributes node ⟨range, .block, node.kind, false⟩
  | branch {child : Node} {range : Span} (kind : node.kind = .conditionalExpression)
      (mem : child ∈ node.children) (range_eq : child.range? = some range) :
      Contributes node ⟨range, .ternaryBranch, child.kind, true⟩
  | body {first last : Node} {start stop : Span} (kind : node.kind = .switchCase)
      (mem_first : first ∈ node.children) (first_eq : first.range? = some start)
      (mem_last : last ∈ node.children) (last_eq : last.range? = some stop) :
      Contributes node ⟨⟨start.start, stop.stop⟩, .switchCase, .switchCase, false⟩

theorem branch?_eq_some {node : Node} {name : String} {c : Candidate} (h : node.branch? name = some c) :
    ∃ child range, child ∈ node.children ∧ child.range? = some range ∧
      c = ⟨range, .ternaryBranch, child.kind, true⟩ := by
  unfold branch? at h
  split at h
  · rename_i child hf
    split at h
    · rename_i hs
      obtain ⟨range, hr, rfl⟩ := Option.map_eq_some_iff.1 h
      exact ⟨child, range, mem_children_of_field? hf (by simp [Tree.objects]), by simp [range?, hs, hr], rfl⟩
    · cases h
  · cases h

theorem mem_statementSpans {node : Node} {range : Span} (h : range ∈ node.statementSpans) :
    ∃ child ∈ node.children, child.range? = some range := by
  unfold statementSpans at h
  split at h
  · rename_i items hf
    obtain ⟨item, hi, hr⟩ := List.mem_filterMap.1 h
    split at hr
    · rename_i child
      exact ⟨child, mem_children_of_field? hf (Tree.mem_objectsOfList hi (by simp [Tree.objects])), hr⟩
    · cases hr
  · cases h

theorem caseSpan?_eq_some {node : Node} {span : Span} (h : node.caseSpan? = some span) :
    ∃ first ∈ node.statementSpans, ∃ last ∈ node.statementSpans, span = ⟨first.start, last.stop⟩ := by
  unfold caseSpan? at h
  split at h
  · cases h
  · rename_i first rest hs
    simp only [Option.some.injEq] at h
    rw [hs]
    exact ⟨first, by simp, _, List.getLast_mem (by simp), h.symm⟩

theorem isSyntax_of_mem_candidates {node : Node} {c : Candidate} (h : c ∈ node.candidates) :
    node.isSyntax = true := by
  unfold candidates at h
  split at h
  · assumption
  · cases h

theorem contributes_of_mem {node : Node} {c : Candidate} (h : c ∈ node.candidates) : node.Contributes c := by
  have hs := isSyntax_of_mem_candidates h
  have hspan : node.range? = node.span := by simp [range?, hs]
  simp only [candidates, hs, if_true] at h
  split at h
  case h_1 hk =>
    obtain ⟨range, hr, rfl⟩ := List.mem_map.1 h
    exact .block (Or.inl hk) (hspan.trans (Option.mem_toList.1 hr))
  case h_2 hk =>
    obtain ⟨range, hr, rfl⟩ := List.mem_map.1 h
    exact .block (Or.inr hk) (hspan.trans (Option.mem_toList.1 hr))
  case h_3 hk =>
    have hb : ∃ name, node.branch? name = some c := by
      rcases List.mem_append.1 h with h | h
      · exact ⟨_, Option.mem_toList.1 h⟩
      · exact ⟨_, Option.mem_toList.1 h⟩
    obtain ⟨name, hb⟩ := hb
    obtain ⟨child, range, hc, hr, rfl⟩ := branch?_eq_some hb
    exact .branch hk hc hr
  case h_4 hk =>
    obtain ⟨span, hspan, rfl⟩ := List.mem_map.1 h
    obtain ⟨first, hf, last, hl, rfl⟩ := caseSpan?_eq_some (Option.mem_toList.1 hspan)
    obtain ⟨c, hc, hcr⟩ := mem_statementSpans hf
    obtain ⟨d, hd, hdr⟩ := mem_statementSpans hl
    exact .body hk hc hcr hd hdr
  case h_5 => cases h

/-- Only a conditional expression contributes more than one candidate, so a relation between two branches
relates all that an object contributes. -/
theorem pairwise_candidates {R : Candidate → Candidate → Prop} {node : Node}
    (h : ∀ c ∈ node.children, ∀ d ∈ node.children, ∀ r s, c.range? = some r → d.range? = some s →
      R ⟨r, .ternaryBranch, c.kind, true⟩ ⟨s, .ternaryBranch, d.kind, true⟩) : node.candidates.Pairwise R := by
  have single : ∀ {β : Type} (o : Option β) (f : β → Candidate), (o.toList.map f).Pairwise R := by
    intro β o f
    cases o <;> simp
  unfold candidates
  split
  · split
    · exact single _ _
    · exact single _ _
    · rw [List.pairwise_append]
      refine ⟨?_, ?_, ?_⟩
      · cases node.branch? "consequent" <;> simp
      · cases node.branch? "alternate" <;> simp
      · intro a ha b hb
        obtain ⟨c, r, hc, hr, rfl⟩ := branch?_eq_some (Option.mem_toList.1 ha)
        obtain ⟨d, s, hd, hs, rfl⟩ := branch?_eq_some (Option.mem_toList.1 hb)
        exact h c hc d hd r s hr hs
    · exact single _ _
    · exact List.Pairwise.nil
  · exact List.Pairwise.nil

end Node

end ScriptCoverage
