import ScriptCoverage.Proofs.Report.Nesting
import Mathlib.Data.List.Perm.Subperm

/-!
# The markers of any units

However the ranges of units lie, each unit has one opening and one closing marker, and the markers are ordered by
position (`markerEvents_perm`, `markerEvents_sorted`). No unit is closed before it is opened, so at any time at least
as many markers have opened a unit as have closed one (`count_closing_le`).

Whether a closing marker finds its own unit on top is another matter. A unit that is open stays on the stack until its
own closing marker comes (`openAfter_keeps`), so two units whose ranges cross are in each other's way, and the markers
nest exactly if no two ranges do: `markerEvents_nested_iff`.
-/

namespace ScriptCoverage

/-- The two markers of a unit. -/
def CoverableUnit.markers (u : CoverableUnit) : List MarkerEvent := [⟨u.start, .opening, u⟩, ⟨u.stop, .closing, u⟩]

/-! ## One pair for each unit, in the order of positions -/

theorem markerEvents_perm (units : List CoverableUnit) :
    (markerEvents units).Perm (units.flatMap CoverableUnit.markers) := by
  have hranked : (units.zipIdx.flatMap fun p => RankedEvent.ofUnit p.1 p.2).map (·.event) =
      units.flatMap CoverableUnit.markers := by
    rw [List.map_flatMap]
    calc units.zipIdx.flatMap (fun p => p.1.markers)
        = (units.zipIdx.map Prod.fst).flatMap CoverableUnit.markers := (List.flatMap_map ..).symm
      _ = units.flatMap CoverableUnit.markers := by rw [List.zipIdx_map_fst]
  rw [← hranked]
  exact (List.mergeSort_perm _ _).map _

theorem mem_markerEvents {units : List CoverableUnit} {e : MarkerEvent} :
    e ∈ markerEvents units ↔ ∃ u ∈ units, e ∈ u.markers := by
  rw [(markerEvents_perm units).mem_iff, List.mem_flatMap]

/-- There are as many opening markers as units, and as many closing ones. -/
theorem count_markerEvents (units : List CoverableUnit) (side : MarkerSide) :
    ((markerEvents units).map (·.side)).count side = units.length := by
  rw [((markerEvents_perm units).map _).count_eq]
  induction units with
  | nil => rfl
  | cons u rest ih =>
    have hpair : (u.markers.map (·.side)).count side = 1 := by cases side <;> rfl
    rw [List.flatMap_cons, List.map_append, List.count_append, hpair, ih, List.length_cons, Nat.add_comm]

theorem markerEvents_sorted (units : List CoverableUnit) :
    (markerEvents units).Pairwise fun e f => e.position ≤ f.position := by
  refine List.pairwise_map.2 ((RankedEvent.pairwise_before (RankedEvent.pairwise_differ units)).imp ?_)
  intro e f h
  simp only [RankedEvent.Before] at h
  omega

namespace RankedEvent

/-- The opening marker that belongs to a closing one. -/
def opener (e : RankedEvent) : RankedEvent := ⟨⟨-e.reach, .opening, e.event.unit⟩, -e.event.position, -e.order⟩

@[simp] theorem opener_closed (p : CoverableUnit × Nat) : (closed p).opener = opened p := by
  simp [opener, closed, opened]

section
variable {pairs : List (CoverableUnit × Nat)} {events : List RankedEvent}

theorem Reads.nodup {stack : List (CoverableUnit × Nat)} (h : Reads pairs stack events) : events.Nodup := by
  refine h.sorted.imp ?_
  rintro e _ hbefore rfl
  exact hbefore.irrefl

/-- What is closed has been opened before. -/
theorem Reads.opener_mem_take (h : Reads pairs [] events) {n : Nat} {e : RankedEvent} (he : e ∈ events.take n)
    (hside : e.event.side = .closing) : ∃ p, e = closed p ∧ opened p ∈ events.take n := by
  obtain ⟨p, hp, rfl | rfl⟩ := h.of_pairs e (List.mem_of_mem_take he)
  · cases hside
  · refine ⟨p, rfl, ?_⟩
    have hopened := (h.opened_or_stack p hp (List.mem_of_mem_take he)).resolve_right List.not_mem_nil
    have hsorted := h.sorted
    rw [← List.take_append_drop n events] at hopened hsorted
    refine (List.mem_append.1 hopened).resolve_right fun hlater => ?_
    exact (opened_before_closed p).asymm ((List.pairwise_append.1 hsorted).2.2 _ he _ hlater)

/-- The opening markers of what is closed are different, and all of them have been read. -/
theorem Reads.length_closing_le (h : Reads pairs [] events) (n : Nat) :
    ((events.take n).filter fun e => e.event.side = .closing).length ≤
      ((events.take n).filter fun e => e.event.side = .opening).length := by
  have hclosed : ∀ e ∈ (events.take n).filter (fun e => e.event.side = .closing),
      ∃ p, e = closed p ∧ opened p ∈ events.take n := by
    intro e he
    obtain ⟨he, hside⟩ := List.mem_filter.1 he
    exact h.opener_mem_take he (of_decide_eq_true hside)
  have hnodup : (((events.take n).filter fun e => e.event.side = .closing).map opener).Nodup := by
    refine List.Nodup.map_on ?_ ((h.nodup.sublist (List.take_sublist n events)).filter _)
    intro e he f hf heq
    obtain ⟨p, rfl, -⟩ := hclosed e he
    obtain ⟨q, rfl, -⟩ := hclosed f hf
    rw [opener_closed, opener_closed] at heq
    rw [opened_inj heq]
  have hsubset : ((events.take n).filter fun e => e.event.side = .closing).map opener ⊆
      (events.take n).filter fun e => e.event.side = .opening := by
    intro e he
    obtain ⟨c, hc, rfl⟩ := List.mem_map.1 he
    obtain ⟨p, rfl, hp⟩ := hclosed c hc
    rw [opener_closed]
    exact List.mem_filter.2 ⟨hp, rfl⟩
  rw [← List.length_map opener]
  exact (List.subperm_of_subset hnodup hsubset).length_le

end

end RankedEvent

/-- At any time at least as many markers have opened a unit as have closed one. -/
theorem count_closing_le (units : List CoverableUnit) (n : Nat) :
    (((markerEvents units).take n).map (·.side)).count .closing ≤
      (((markerEvents units).take n).map (·.side)).count .opening := by
  have hcount : ∀ (events : List RankedEvent) (side : MarkerSide),
      (((events.map (·.event)).take n).map (·.side)).count side =
        ((events.take n).filter fun e => e.event.side = side).length := by
    intro events side
    rw [← List.map_take, List.map_map, List.count, List.countP_map, List.countP_eq_length_filter]
    rfl
  simp only [markerEvents, hcount]
  exact (RankedEvent.reads_mergeSort units).length_closing_le n

/-! ## Crossing ranges -/

theorem openAfter_append (stack : List CoverableUnit) (first later : List MarkerEvent) :
    openAfter stack (first ++ later) = (openAfter stack first).bind fun stack => openAfter stack later := by
  fun_induction openAfter stack first with
  | case1 stack => rfl
  | case2 stack p u rest ih => exact ih
  | case3 p u rest => rfl
  | case4 top stack p rest ih =>
    rw [List.cons_append, openAfter, if_pos rfl]
    exact ih
  | case5 top stack p u rest h =>
    rw [List.cons_append, openAfter, if_neg h]
    rfl

/-- A unit that is open stays on the stack until its own closing marker comes, and above it there is only what was
there before or is opened in the meantime. -/
theorem openAfter_keeps {q : CoverableUnit} {below : List CoverableUnit} {events : List MarkerEvent} :
    ∀ (above : List CoverableUnit) {stack}, openAfter (above ++ q :: below) events = some stack →
      (∀ e ∈ events, e.side = .closing → e.unit ≠ q) →
      ∃ above', stack = above' ++ q :: below ∧
        ∀ u ∈ above', u ∈ above ∨ ∃ e ∈ events, e.side = .opening ∧ e.unit = u := by
  induction events with
  | nil =>
    intro above stack h _
    rw [openAfter, Option.some.injEq] at h
    exact ⟨above, h.symm, fun u hu => Or.inl hu⟩
  | cons e rest ih =>
    intro above stack h hq
    have hrest : ∀ e ∈ rest, e.side = .closing → e.unit ≠ q := fun e he => hq e (List.mem_cons_of_mem _ he)
    obtain ⟨position, side, u⟩ := e
    cases side with
    | opening =>
      rw [openAfter, ← List.cons_append] at h
      obtain ⟨above', hstack, habove⟩ := ih _ h hrest
      refine ⟨above', hstack, fun v hv => ?_⟩
      rcases habove v hv with hv | ⟨e, he, hv⟩
      · rcases List.mem_cons.1 hv with rfl | hv
        · exact Or.inr ⟨_, List.mem_cons_self, rfl, rfl⟩
        · exact Or.inl hv
      · exact Or.inr ⟨e, List.mem_cons_of_mem _ he, hv⟩
    | closing =>
      cases above with
      | nil =>
        rw [List.nil_append, openAfter, if_neg (hq _ List.mem_cons_self rfl)] at h
        cases h
      | cons top above =>
        rw [List.cons_append, openAfter] at h
        split at h
        · obtain ⟨above', hstack, habove⟩ := ih _ h hrest
          refine ⟨above', hstack, fun v hv => ?_⟩
          rcases habove v hv with hv | ⟨e, he, hv⟩
          · exact Or.inl (List.mem_cons_of_mem _ hv)
          · exact Or.inr ⟨e, List.mem_cons_of_mem _ he, hv⟩
        · cases h

/-- Between the opening of one unit and the closing of another, the first is closed or the other opened. -/
theorem closed_or_opened {p q : CoverableUnit} (hne : p ≠ q) {stack final : List CoverableUnit}
    {between rest : List MarkerEvent} {i j : Int}
    (h : openAfter stack (⟨i, .opening, q⟩ :: (between ++ ⟨j, .closing, p⟩ :: rest)) = some final) :
    ∃ e ∈ between, e.side = .closing ∧ e.unit = q ∨ e.side = .opening ∧ e.unit = p := by
  by_contra hnone
  simp only [not_exists, not_and, not_or] at hnone
  rw [openAfter, openAfter_append, Option.bind_eq_some_iff] at h
  obtain ⟨_, hread, hclose⟩ := h
  obtain ⟨above, rfl, habove⟩ := openAfter_keeps [] hread fun e he => (hnone e he).1
  cases above with
  | nil =>
    rw [List.nil_append, openAfter, if_neg hne] at hclose
    cases hclose
  | cons top above =>
    rw [List.cons_append, openAfter] at hclose
    split at hclose
    · rename_i htop
      obtain hnil | ⟨e, he, hside, hunit⟩ := habove top List.mem_cons_self
      · cases hnil
      · exact (hnone e he).2 hside (hunit.trans htop.symm)
    · cases hclose

/-- Of two events at different positions, what stands between has a position between theirs. -/
theorem exists_between {events : List MarkerEvent} (hsorted : events.Pairwise fun e f => e.position ≤ f.position)
    {e f : MarkerEvent} (he : e ∈ events) (hf : f ∈ events) (hlt : e.position < f.position) :
    ∃ before between rest, events = before ++ e :: (between ++ f :: rest) ∧
      ∀ g ∈ between, e.position ≤ g.position ∧ g.position ≤ f.position := by
  obtain ⟨before, later, rfl⟩ := List.append_of_mem he
  obtain ⟨-, hafter, hbefore⟩ := List.pairwise_append.1 hsorted
  have hlater : f ∈ later := by
    rcases List.mem_append.1 hf with hmem | hmem
    · exact absurd (hbefore _ hmem _ List.mem_cons_self) (Int.not_le.2 hlt)
    · exact (List.mem_cons.1 hmem).resolve_left fun heq => Int.lt_irrefl _ (heq ▸ hlt)
  obtain ⟨between, rest, rfl⟩ := List.append_of_mem hlater
  obtain ⟨hfirst, hrest⟩ := List.pairwise_cons.1 hafter
  obtain ⟨-, -, hlast⟩ := List.pairwise_append.1 hrest
  refine ⟨before, between, rest, rfl, fun g hg => ⟨?_, ?_⟩⟩
  · exact hfirst g (List.mem_append_left _ hg)
  · exact hlast g hg _ List.mem_cons_self

/-- Markers that can be read belong to no ranges that cross. -/
theorem not_crossing_of_openAfter {units stack : List CoverableUnit}
    (h : openAfter [] (markerEvents units) = some stack) {p q : CoverableUnit} (hp : p ∈ units) (hq : q ∈ units) :
    ¬ (p.start < q.start ∧ q.start < p.stop ∧ p.stop < q.stop) := by
  rintro ⟨hstart, hinside, hstop⟩
  have hopen : (⟨q.start, .opening, q⟩ : MarkerEvent) ∈ markerEvents units :=
    mem_markerEvents.2 ⟨q, hq, by simp [CoverableUnit.markers]⟩
  have hclose : (⟨p.stop, .closing, p⟩ : MarkerEvent) ∈ markerEvents units :=
    mem_markerEvents.2 ⟨p, hp, by simp [CoverableUnit.markers]⟩
  obtain ⟨before, between, rest, hsplit, hbetween⟩ :=
    exists_between (markerEvents_sorted units) hopen hclose hinside
  have hread := h
  rw [hsplit, openAfter_append, Option.bind_eq_some_iff] at hread
  obtain ⟨below, -, hread⟩ := hread
  obtain ⟨e, he, hcase⟩ := closed_or_opened (by rintro rfl; omega) hread
  -- `q` ends behind what lies between, and `p` starts in front of it
  obtain ⟨hlow, hhigh⟩ := hbetween e he
  have hmarker : e ∈ markerEvents units := by
    rw [hsplit]
    exact List.mem_append_right _ (List.mem_cons_of_mem _ (List.mem_append_left _ he))
  obtain ⟨u, -, hu⟩ := mem_markerEvents.1 hmarker
  simp only [CoverableUnit.markers, List.mem_cons, List.not_mem_nil, or_false] at hu
  rcases hu with rfl | rfl
  · obtain ⟨hside, -⟩ | ⟨-, rfl⟩ := hcase
    · cases hside
    · exact Int.not_le.2 hstart hlow
  · obtain ⟨-, rfl⟩ | ⟨hside, -⟩ := hcase
    · exact Int.not_le.2 hstop hhigh
    · cases hside

/-- **Markers nest exactly when ranges do.** Every unit has one opening and one closing marker, these come in the order
of their positions, and every closing marker finds its unit on top exactly if the ranges of the units are pairwise
nested or apart; no unit is left open then. -/
theorem markerEvents_nested_iff (units : List CoverableUnit) :
    (markerEvents units).Perm (units.flatMap CoverableUnit.markers) ∧
      (markerEvents units).Pairwise (fun e f => e.position ≤ f.position) ∧
      ((openAfter [] (markerEvents units)).isSome ↔ units.Pairwise fun u v => u.span.Nested v.span) ∧
      (ProperlyNested (markerEvents units) ↔ units.Pairwise fun u v => u.span.Nested v.span) := by
  have hnested : ∀ {stack}, openAfter [] (markerEvents units) = some stack →
      units.Pairwise fun u v => u.span.Nested v.span := by
    intro stack h
    refine List.pairwise_of_forall_mem_list fun u hu v hv => ?_
    have huv := not_crossing_of_openAfter h hu hv
    have hvu := not_crossing_of_openAfter h hv hu
    simp only [Span.Nested, Span.Contains, Span.Apart, CoverableUnit.span]
    omega
  refine ⟨markerEvents_perm units, markerEvents_sorted units, ⟨fun h => ?_, fun h => ?_⟩, hnested, markerEvents_nested⟩
  · obtain ⟨stack, h⟩ := Option.isSome_iff_exists.1 h
    exact hnested h
  · exact Option.isSome_iff_exists.2 ⟨[], markerEvents_nested h⟩

end ScriptCoverage
