import ScriptCoverage.Proofs.Unit.Order
import Mathlib.Data.List.Forall2

/-!
# What discovery finds

`Node.units` says by recursion on the tree which candidates a tree is to be tracked by: those of an object itself
(`Node.ownUnits`), then those of the objects under its fields. Discovery goes a different way. It lists the objects
of the tree first, and drops empty candidates only when it registers them; that both come to the same is
`Node.units_eq`. One call adds the units of its tree to the registry (`discover_step`), and by induction a sequence of
calls adds those of its trees, one tree after the other: `discoverAll_units`.
-/

namespace ScriptCoverage

/-! ## The units of a tree -/

/-- A part that is an object with a type and a range, as the branch of a conditional expression. -/
def Tree.asBranch? : Tree → Option Candidate
  | .object (.mk (some type) (some range) _) => some ⟨range, .ternaryBranch, .ofName type, true⟩
  | _ => none

/-- The range of a part that is an object with a type and a range. -/
def Tree.syntaxRange? : Tree → Option Span
  | .object (.mk (some _) range _) => range
  | _ => none

/-- From the start of the first to the end of the last object with a type and a range that stands in a list. -/
def Tree.bodySpan? : Tree → Option Span
  | .list items =>
    match (items.filterMap syntaxRange?).head?, (items.filterMap syntaxRange?).getLast? with
    | some first, some last => some ⟨first.start, last.stop⟩
    | _, _ => none
  | _ => none

/-- What an object is tracked by itself: only an object with a type and a range is. -/
def Node.ownUnits : Node → List Candidate
  | .mk (some type) (some range) fields =>
    let part (name : String) := Mapping.get? fields name
    if type = "Program" then [⟨range, .block, .program, false⟩]
    else if type = "BlockStatement" then [⟨range, .block, .blockStatement, false⟩]
    else if type = "ConditionalExpression" then
      ((part "consequent").bind Tree.asBranch?).toList ++ ((part "alternate").bind Tree.asBranch?).toList
    else if type = "SwitchCase" then
      ((part "consequent").bind Tree.bodySpan?).toList.map fun span => ⟨span, .switchCase, .switchCase, false⟩
    else []
  | _ => []

mutual

/-- What a tree is tracked by: what its root is tracked by itself, empty and inverted ranges dropped, and then what the
objects under the root are, field after field. -/
def Node.units : Node → List Candidate
  | .mk typeName span fields =>
    (Node.ownUnits (.mk typeName span fields)).filter (fun c => decide (c.span.start < c.span.stop)) ++
      Node.unitsOfFields fields

def Node.unitsOfFields : List (Scalar × Tree) → List Candidate
  | [] => []
  | (_, part) :: rest => part.units ++ Node.unitsOfFields rest

/-- What the objects of a part are tracked by; in a list, item after item. -/
def Tree.units : Tree → List Candidate
  | .scalar _ => []
  | .atom => []
  | .list items => Tree.unitsOfList items
  | .object node => node.units

def Tree.unitsOfList : List Tree → List Candidate
  | [] => []
  | item :: rest => item.units ++ Tree.unitsOfList rest

end

namespace Node

theorem branch?_eq (node : Node) (name : String) :
    node.branch? name = (Mapping.get? node.fields name).bind Tree.asBranch? := by
  simp only [branch?, field?]
  rcases Mapping.get? node.fields name with _ | _ | _ | _ | ⟨_ | type, _ | range, below⟩ <;> rfl

theorem statementSpans_of_list {node : Node} {items : List Tree} (h : node.field? "consequent" = some (.list items)) :
    node.statementSpans = items.filterMap Tree.syntaxRange? := by
  simp only [statementSpans, h]
  refine List.filterMap_congr fun item _ => ?_
  rcases item with _ | _ | _ | ⟨_ | type, _ | range, below⟩ <;> rfl

theorem statementSpans_of_no_list {node : Node} (h : ∀ items, node.field? "consequent" ≠ some (.list items)) :
    node.statementSpans = [] := by
  unfold statementSpans
  split
  · rename_i heq
    exact absurd heq (h _)
  · rfl

theorem caseSpan?_eq (node : Node) :
    node.caseSpan? = (Mapping.get? node.fields "consequent").bind Tree.bodySpan? := by
  have hspan : node.caseSpan? = match node.statementSpans.head?, node.statementSpans.getLast? with
      | some first, some last => some ⟨first.start, last.stop⟩
      | _, _ => none := by
    unfold caseSpan?
    split
    · rename_i hnone
      simp [hnone]
    · rename_i first rest hsome
      simp [hsome, List.getLast?_eq_some_getLast]
  rw [hspan, show Mapping.get? node.fields "consequent" = node.field? "consequent" from rfl]
  rcases hpart : node.field? "consequent" with _ | part
  case none => rw [statementSpans_of_no_list (by simp [hpart])]; rfl
  case some =>
    cases part with
    | list items => rw [statementSpans_of_list hpart]; rfl
    | _ => rw [statementSpans_of_no_list (by simp [hpart])]; rfl

theorem candidates_eq (node : Node) : node.candidates = node.ownUnits := by
  obtain ⟨_ | type, _ | range, fields⟩ := node
  case some.some =>
    have hkind : (mk (some type) (some range) fields).kind = .ofName type := rfl
    have hsyntax : (mk (some type) (some range) fields).isSyntax = true := rfl
    simp only [candidates, hsyntax, if_true, hkind, ownUnits, branch?_eq, caseSpan?_eq]
    by_cases hprogram : type = "Program"
    · subst hprogram
      rfl
    by_cases hblock : type = "BlockStatement"
    · subst hblock
      rfl
    by_cases hconditional : type = "ConditionalExpression"
    · subst hconditional
      rfl
    by_cases hcase : type = "SwitchCase"
    · subst hcase
      rfl
    have hother : NodeKind.ofName type = .other := by
      unfold NodeKind.ofName
      split <;> first | contradiction | rfl
    simp only [hother, hprogram, hblock, hconditional, hcase, if_false]
  all_goals rfl

end Node

mutual

/-- Looking at one object after the other and dropping the empty candidates in the end finds the same. -/
theorem Node.units_eq : ∀ node : Node, node.units = (node.walk.flatMap Node.candidates).filter Candidate.covers
  | .mk type range fields => by
    rw [Node.units, Node.walk, List.flatMap_cons, List.filter_append, Node.candidates_eq, Node.unitsOfFields_eq fields]
    rfl

theorem Node.unitsOfFields_eq : ∀ fields : List (Scalar × Tree),
    Node.unitsOfFields fields = ((Node.walkFields fields).flatMap Node.candidates).filter Candidate.covers
  | [] => rfl
  | (_, part) :: rest => by
    rw [Node.unitsOfFields, Node.walkFields, List.flatMap_append, List.filter_append, Tree.units_eq part,
      Node.unitsOfFields_eq rest]

theorem Tree.units_eq : ∀ part : Tree, part.units = (part.walk.flatMap Node.candidates).filter Candidate.covers
  | .scalar _ => rfl
  | .atom => rfl
  | .list items => by rw [Tree.units, Tree.walk, Tree.unitsOfList_eq items]
  | .object node => by rw [Tree.units, Tree.walk, Node.units_eq node]

theorem Tree.unitsOfList_eq : ∀ items : List Tree,
    Tree.unitsOfList items = ((Tree.walkList items).flatMap Node.candidates).filter Candidate.covers
  | [] => rfl
  | item :: rest => by
    rw [Tree.unitsOfList, Tree.walkList, List.flatMap_append, List.filter_append, Tree.units_eq item,
      Tree.unitsOfList_eq rest]

end

/-! ## Trees registered one after the other -/

/-- The unit that a candidate becomes under an id. -/
def Candidate.unit (source : Text) (id : Nat) (c : Candidate) : Except EmptyRange CoverableUnit :=
  CoverableUnit.make id c.span.start c.span.stop c.kind c.shape c.isExpression (source.slice c.span.start c.span.stop)

/-- The second list holds the units of the first in the order of their starts; those that start together keep the
order of their ids. -/
def SourceOrder (units found : List CoverableUnit) : Prop :=
  found.Perm units ∧ found.Pairwise fun u v => u.start < v.start ∨ u.start = v.start ∧ u.id < v.id

namespace Registry

/-- Discovers trees one after the other in one registry. -/
def discoverAll (r : Registry) : List Node → List (List CoverableUnit) × Registry
  | [] => ([], r)
  | root :: rest =>
    ((r.discover root).1 :: ((r.discover root).2.discoverAll rest).1, ((r.discover root).2.discoverAll rest).2)

/-- The new units, with the ids that follow those of the registry. -/
theorem addAll_units (r : Registry) (cs : List Candidate) : (r.addAll cs).1.map Except.ok =
    (cs.filter Candidate.covers).mapIdx fun k c => c.unit r.source (r.size + k) := by
  induction cs generalizing r with
  | nil => rfl
  | cons c rest ih =>
    by_cases h : c.span.start < c.span.stop
    · have hc : c.covers = true := by simpa [Candidate.covers] using h
      have hunit : c.unit r.source r.size = .ok (r.add c.span c.kind c.shape c.isExpression h).1 := dif_pos h
      have hsize : (r.add c.span c.kind c.shape c.isExpression h).2.size = r.size + 1 := by simp [add, size]
      rw [addAll_cons_covers r rest h, List.map_cons, ih, hsize, List.filter_cons_of_pos hc, List.mapIdx_cons]
      simp only [Nat.add_zero, hunit, Nat.add_assoc, Nat.add_comm 1]
      rfl
    · have hc : ¬ c.covers = true := by simpa [Candidate.covers] using h
      rw [addAll_cons_empty r rest h, ih, List.filter_cons_of_neg hc]

/-- New units are listed in source order. -/
theorem sourceOrder_addAll (r : Registry) (cs : List Candidate) :
    SourceOrder (r.addAll cs).1 (sorted (r.addAll cs).1) := by
  have hids : (r.addAll cs).1.Pairwise fun u v => u.id < v.id := by
    have hpositions : (List.range' r.size (r.addAll cs).1.length).Pairwise (· < ·) := List.pairwise_lt_range'
    have hrange : ((r.addAll cs).1.map (·.id)).Pairwise (· < ·) := by
      rw [addAll_ids, List.pairwise_map]
      exact hpositions.imp fun h => Int.ofNat_lt.2 h
    exact List.pairwise_map.1 hrange
  exact ⟨sorted_perm _, sorted_pairwise hids⟩

/-- **One tree.** A call appends the units of its tree, under the next ids, and lists them in source order. -/
theorem discover_step (r : Registry) (root : Node) : ∃ added,
    (r.discover root).2 = { r with units := r.units ++ added } ∧
    added.map CoverableUnit.candidate = root.units ∧
    added.map Except.ok = root.units.mapIdx (fun k c => c.unit r.source (r.size + k)) ∧
    SourceOrder added (r.discover root).1 := by
  refine ⟨(r.addAll (root.walk.flatMap Node.candidates)).1, addAll_registry r _, ?_, ?_, sourceOrder_addAll r _⟩
  · rw [addAll_candidates, Node.units_eq]
  · rw [addAll_units, Node.units_eq]

/-- A sequence of trees appends the units of one tree after those of the other. -/
theorem discoverAll_run (r : Registry) (roots : List Node) : ∃ added : List (List CoverableUnit),
    (r.discoverAll roots).2 = { r with units := r.units ++ added.flatten } ∧
    added.map (·.map CoverableUnit.candidate) = roots.map Node.units ∧
    added.flatten.map Except.ok = (roots.flatMap Node.units).mapIdx (fun k c => c.unit r.source (r.size + k)) ∧
    List.Forall₂ SourceOrder added (r.discoverAll roots).1 := by
  induction roots generalizing r with
  | nil => exact ⟨[], by simp [discoverAll], rfl, rfl, .nil⟩
  | cons root rest ih =>
    obtain ⟨first, hregistry, hcandidates, hunits, hfound⟩ := discover_step r root
    obtain ⟨later, hregistry', hcandidates', hunits', hfound'⟩ := ih (r.discover root).2
    have hlength : root.units.length = first.length := by rw [← hcandidates, List.length_map]
    refine ⟨first :: later, ?_, ?_, ?_, .cons hfound hfound'⟩
    · rw [discoverAll, hregistry', hregistry, List.flatten_cons, List.append_assoc]
    · rw [List.map_cons, hcandidates, hcandidates', List.map_cons]
    · have hsize : (r.discover root).2.size = r.size + first.length := by
        rw [hregistry]
        simp [size]
      have hsource : (r.discover root).2.source = r.source := by rw [hregistry]
      rw [List.flatten_cons, List.map_append, hunits, hunits', hsource, hsize, List.flatMap_cons, List.mapIdx_append,
        hlength]
      simp only [Nat.add_assoc, Nat.add_comm first.length]

/-- **Discovery.** However many trees are discovered in one registry, its units are those of the trees, one tree after
the other, with their positions as ids and the text of their ranges; and every call lists the units that it added
itself, in source order. -/
theorem discoverAll_units (source : Text) (roots : List Node) :
    (discoverAll { source } roots).2.units.map Except.ok =
      (roots.flatMap Node.units).mapIdx (fun id c => c.unit source id) ∧
    ∃ added : List (List CoverableUnit),
      (discoverAll { source } roots).2.units = added.flatten ∧
      added.map (·.map CoverableUnit.candidate) = roots.map Node.units ∧
      List.Forall₂ SourceOrder added (discoverAll { source } roots).1 := by
  obtain ⟨added, hregistry, hcandidates, hunits, hfound⟩ := discoverAll_run { source } roots
  have hall : (discoverAll { source } roots).2.units = added.flatten := by simp [hregistry]
  refine ⟨?_, added, hall, hcandidates, hfound⟩
  rw [hall, hunits]
  simp [size]

end Registry

end ScriptCoverage
