import ScriptCoverage.Unit.Discovery
import Mathlib.Data.List.Nodup

/-!
# Registration and source order

Registering candidates makes one unit of each that is not empty: `addAll_candidates` says what the units
are, `addAll_ids` that their ids continue those of the registry. Sorting then keeps the order of
registration among units that start together (`sorted_pairwise`), which is all that later modules need to
know of the sort.
-/

namespace ScriptCoverage

/-! ## Stable sorting -/

section
variable {α : Type} {R : α → α → Prop} {le : α → α → Bool}

/-- A sorted list keeps the order of what the order does not tell apart. -/
theorem pairwise_mergeSort_stable (trans : ∀ a b c, le a b → le b c → le a c) (total : ∀ a b, le a b || le b a)
    {l : List α} (h : l.Pairwise R) : (l.mergeSort le).Pairwise fun a b => le a b ∧ (le b a → R a b) := by
  rw [← List.mergeSort_zipIdx, List.pairwise_map]
  have hsorted := List.pairwise_mergeSort (List.zipIdxLE_trans trans) (List.zipIdxLE_total total) l.zipIdx
  have hnodup : (l.zipIdx.mergeSort (List.zipIdxLE le)).Pairwise fun a b => a.2 ≠ b.2 := by
    have : ((l.zipIdx.mergeSort (List.zipIdxLE le)).map Prod.snd).Nodup := by
      refine ((List.mergeSort_perm _ _).map Prod.snd).nodup_iff.2 ?_
      rw [List.zipIdx_map_snd]
      exact List.nodup_range'
    exact List.pairwise_map.1 this
  refine (hsorted.and hnodup).imp_of_mem ?_
  rintro ⟨a, i⟩ ⟨b, j⟩ ha hb ⟨hle, hne⟩
  rw [List.mem_mergeSort, List.mem_zipIdx_iff_getElem?] at ha hb
  simp only [List.zipIdxLE] at hle ha hb hne ⊢
  by_cases hab : le a b
  · refine ⟨hab, fun hba => ?_⟩
    simp only [hab, hba, if_true, decide_eq_true_eq] at hle
    obtain ⟨hi, rfl⟩ := List.getElem?_eq_some_iff.1 ha
    obtain ⟨hj, rfl⟩ := List.getElem?_eq_some_iff.1 hb
    exact List.pairwise_iff_getElem.1 h i j hi hj (Nat.lt_of_le_of_ne hle hne)
  · simp [hab] at hle

end

/-! ## Registration -/

/-- A candidate that covers at least one character. -/
def Candidate.covers (c : Candidate) : Bool := decide (c.span.start < c.span.stop)

namespace CoverableUnit

/-- The range of a unit. -/
def span (u : CoverableUnit) : Span := ⟨u.start, u.stop⟩

/-- The candidate that a unit was made of. -/
def candidate (u : CoverableUnit) : Candidate := ⟨u.span, u.kind, u.shape, u.isExpression⟩

end CoverableUnit

namespace Registry

theorem addAll_cons_covers (r : Registry) {c : Candidate} (rest : List Candidate)
    (h : c.span.start < c.span.stop) :
    r.addAll (c :: rest) =
      ((r.add c.span c.kind c.shape c.isExpression h).1 ::
        ((r.add c.span c.kind c.shape c.isExpression h).2.addAll rest).1,
       ((r.add c.span c.kind c.shape c.isExpression h).2.addAll rest).2) := by
  simp [addAll, h]

theorem addAll_cons_empty (r : Registry) {c : Candidate} (rest : List Candidate)
    (h : ¬ c.span.start < c.span.stop) : r.addAll (c :: rest) = r.addAll rest := by
  simp [addAll, h]

/-- The registry gains the new units at its end. -/
theorem addAll_registry (r : Registry) (cs : List Candidate) :
    (r.addAll cs).2 = { r with units := r.units ++ (r.addAll cs).1 } := by
  induction cs generalizing r with
  | nil => simp [addAll]
  | cons c rest ih =>
    by_cases h : c.span.start < c.span.stop
    · rw [addAll_cons_covers r rest h, ih]
      simp [add]
    · rw [addAll_cons_empty r rest h, ih]

/-- One unit is made of each candidate that covers a character, in order. -/
theorem addAll_candidates (r : Registry) (cs : List Candidate) :
    (r.addAll cs).1.map CoverableUnit.candidate = cs.filter Candidate.covers := by
  induction cs generalizing r with
  | nil => rfl
  | cons c rest ih =>
    by_cases h : c.span.start < c.span.stop
    · have hc : c.covers = true := by simpa [Candidate.covers] using h
      rw [addAll_cons_covers r rest h, List.map_cons, ih, List.filter_cons_of_pos hc]
      rfl
    · have hc : ¬ c.covers = true := by simpa [Candidate.covers] using h
      rw [addAll_cons_empty r rest h, ih, List.filter_cons_of_neg hc]

/-- The ids of new units continue those of the registry. -/
theorem addAll_ids (r : Registry) (cs : List Candidate) :
    (r.addAll cs).1.map (·.id) = (List.range' r.size (r.addAll cs).1.length).map Int.ofNat := by
  induction cs generalizing r with
  | nil => rfl
  | cons c rest ih =>
    by_cases h : c.span.start < c.span.stop
    · have hsize : (r.add c.span c.kind c.shape c.isExpression h).2.size = r.size + 1 := by simp [add, size]
      rw [addAll_cons_covers r rest h, List.map_cons, ih, hsize]
      simp only [List.length_cons, List.range'_succ, List.map_cons]
      rfl
    · rw [addAll_cons_empty r rest h, ih]

/-- New units have not run. -/
theorem executionCount_of_mem_addAll (r : Registry) (cs : List Candidate) :
    ∀ u ∈ (r.addAll cs).1, u.executionCount = 0 := by
  induction cs generalizing r with
  | nil => simp [addAll]
  | cons c rest ih =>
    by_cases h : c.span.start < c.span.stop
    · rw [addAll_cons_covers r rest h]
      intro u hu
      rcases List.mem_cons.1 hu with rfl | hu
      · rfl
      · exact ih _ u hu
    · rw [addAll_cons_empty r rest h]
      exact ih r

theorem mem_addAll {r : Registry} {cs : List Candidate} {u : CoverableUnit} (h : u ∈ (r.addAll cs).1) :
    u.candidate ∈ cs := by
  have hu := List.mem_map_of_mem (f := CoverableUnit.candidate) h
  rw [addAll_candidates] at hu
  exact (List.mem_filter.1 hu).1

/-- A relation between candidates in order holds of their units. -/
theorem pairwise_addAll {R : Candidate → Candidate → Prop} (r : Registry) {cs : List Candidate}
    (h : (cs.filter Candidate.covers).Pairwise R) :
    (r.addAll cs).1.Pairwise fun u v => R u.candidate v.candidate := by
  rw [← addAll_candidates r, List.pairwise_map] at h
  exact h

/-! ## Source order -/

theorem sorted_perm (units : List CoverableUnit) : (sorted units).Perm units := List.mergeSort_perm _ _

@[simp] theorem mem_sorted {units : List CoverableUnit} {u : CoverableUnit} : u ∈ sorted units ↔ u ∈ units :=
  (sorted_perm units).mem_iff

/-- **Source order.** Units come in the order of their starts, and those that start together in the order
that they had. -/
theorem sorted_pairwise {R : CoverableUnit → CoverableUnit → Prop} {units : List CoverableUnit}
    (h : units.Pairwise R) : (sorted units).Pairwise fun u v => u.start < v.start ∨ u.start = v.start ∧ R u v := by
  have hs : (sorted units).Pairwise fun u v =>
      decide (u.start ≤ v.start) = true ∧ (decide (v.start ≤ u.start) = true → R u v) := by
    refine pairwise_mergeSort_stable ?_ ?_ h
    · intro a b c hab hbc
      simp only [decide_eq_true_eq] at *
      omega
    · intro a b
      simp only [Bool.or_eq_true, decide_eq_true_eq]
      omega
  refine hs.imp ?_
  intro u v huv
  simp only [decide_eq_true_eq] at huv
  rcases Int.lt_or_eq_of_le huv.1 with hlt | heq
  · exact Or.inl hlt
  · exact Or.inr ⟨heq, huv.2 (by omega)⟩

/-! ## Discovery -/

theorem discover_units (r : Registry) (root : Node) :
    (r.discover root).1 = sorted (r.addAll (root.walk.flatMap Node.candidates)).1 := rfl

theorem discover_registry (r : Registry) (root : Node) :
    (r.discover root).2 = (r.addAll (root.walk.flatMap Node.candidates)).2 := rfl

theorem mem_discover {r : Registry} {root : Node} {u : CoverableUnit} (h : u ∈ (r.discover root).1) :
    u.candidate ∈ root.walk.flatMap Node.candidates := by
  rw [discover_units, mem_sorted] at h
  exact mem_addAll h

/-- A candidate that covers a character becomes a unit. -/
theorem exists_mem_discover (r : Registry) {root : Node} {c : Candidate} (h : c ∈ root.walk.flatMap Node.candidates)
    (hpos : c.span.start < c.span.stop) : ∃ u ∈ (r.discover root).1, u.candidate = c := by
  have hmem : c ∈ (root.walk.flatMap Node.candidates).filter Candidate.covers :=
    List.mem_filter.2 ⟨h, by simpa [Candidate.covers] using hpos⟩
  rw [← addAll_candidates r] at hmem
  obtain ⟨u, hu, hc⟩ := List.mem_map.1 hmem
  exact ⟨u, by rwa [discover_units, mem_sorted], hc⟩

/-- The ids of a registry that a tree was registered in are its positions. -/
theorem discover_ids (source : Text) (root : Node) :
    ((discover { source } root).2.units.map (·.id)) = (List.range (discover { source } root).2.size).map Int.ofNat := by
  rw [discover_registry, addAll_registry]
  simp only [size, List.nil_append]
  rw [addAll_ids, List.range_eq_range']
  rfl

theorem discover_perm (source : Text) (root : Node) :
    (discover { source } root).1.Perm (discover { source } root).2.units := by
  rw [discover_units, discover_registry, addAll_registry]
  exact sorted_perm _

/-- A unit of a registry that a tree was registered in stands at its id, and has not run. -/
theorem getElem?_discover {source : Text} {root : Node} {position : Nat} {u : CoverableUnit}
    (h : (discover { source } root).2.units[position]? = some u) : u.id = position ∧ u.executionCount = 0 := by
  have hids := congrArg (·[position]?) (discover_ids source root)
  simp only [List.getElem?_map, h, Option.map_some] at hids
  have hlt : position < (discover { source } root).2.size := (List.getElem?_eq_some_iff.1 h).1
  rw [List.getElem?_range hlt] at hids
  refine ⟨by simpa using hids, ?_⟩
  have hu := List.mem_of_getElem? h
  rw [discover_registry, addAll_registry] at hu
  exact executionCount_of_mem_addAll _ _ u (by simpa using hu)

end Registry

end ScriptCoverage
