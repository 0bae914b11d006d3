import ScriptCoverage.Proofs.Tree.Laminar
import ScriptCoverage.Proofs.Unit.Order
import ScriptCoverage.Report.Marker

/-!
# Markers nest

Reading markers from left to right with a stack of the units that are open, every closing marker should find its
own unit on top, and none should stay open at the end (`ProperlyNested`). `markerEvents_nested` shows this of the
markers of any units that are pairwise nested or apart, in whatever order they are listed: the order of the
markers at one position is what makes it work. The invariant of the reading is `Reads`.
-/

namespace ScriptCoverage

/-! ## Reading markers -/

/-- The units that are open after some markers, the one opened last first. A closing marker has to belong to the
unit that was opened last. -/
def openAfter : List CoverableUnit → List MarkerEvent → Option (List CoverableUnit)
  | stack, [] => some stack
  | stack, ⟨_, .opening, u⟩ :: rest => openAfter (u :: stack) rest
  | [], ⟨_, .closing, _⟩ :: _ => none
  | top :: stack, ⟨_, .closing, u⟩ :: rest => if u = top then openAfter stack rest else none

/-- Every marker closes the unit that was opened last of those still open, and in the end none is open. -/
def ProperlyNested (events : List MarkerEvent) : Prop := openAfter [] events = some []

namespace RankedEvent

/-- The opening marker of a unit with its rank; the number tells how many units stand before it. -/
def opened (p : CoverableUnit × Nat) : RankedEvent := ⟨⟨p.1.start, .opening, p.1⟩, -p.1.stop, p.2⟩

/-- The closing marker of a unit with its rank. -/
def closed (p : CoverableUnit × Nat) : RankedEvent := ⟨⟨p.1.stop, .closing, p.1⟩, -p.1.start, -(p.2 : Int)⟩

/-! ## The order of markers -/

/-- The strict order of keys. -/
def Before (e f : RankedEvent) : Prop :=
  e.event.position < f.event.position ∨ e.event.position = f.event.position ∧
    (sideRank e.event.side < sideRank f.event.side ∨ sideRank e.event.side = sideRank f.event.side ∧
      (e.reach < f.reach ∨ e.reach = f.reach ∧ e.order < f.order))

theorem le_iff {e f : RankedEvent} : le e f = true ↔ ¬ f.Before e := by
  simp only [le, key, keyLe, Before, Bool.or_eq_true, Bool.and_eq_true, decide_eq_true_eq, Bool.and_true]
  omega

/-- Sorting events whose keys differ puts every event strictly before the later ones. -/
theorem pairwise_before {events : List RankedEvent} (h : events.Pairwise fun e f => e.Before f ∨ f.Before e) :
    (events.mergeSort le).Pairwise Before := by
  have hsorted : (events.mergeSort le).Pairwise fun e f => le e f = true := by
    refine List.pairwise_mergeSort ?_ ?_ events
    · intro a b c hab hbc
      simp only [le_iff, Before] at *
      omega
    · intro a b
      simp only [Bool.or_eq_true, le_iff, Before]
      omega
  have hdiffer : (events.mergeSort le).Pairwise fun e f => e.Before f ∨ f.Before e :=
    (List.mergeSort_perm events le).symm.pairwise h fun hef => hef.symm
  refine (hsorted.and hdiffer).imp ?_
  rintro e f ⟨hle, hef | hfe⟩
  · exact hef
  · exact absurd hfe (le_iff.1 hle)

variable {p q : CoverableUnit × Nat}

theorem opened_before_closed (p : CoverableUnit × Nat) : (opened p).Before (closed p) := by
  have := p.1.nonempty
  simp only [Before, opened, closed]
  omega

theorem before_or_before (h : p.2 ≠ q.2) {e f : RankedEvent} (he : e ∈ [opened p, closed p])
    (hf : f ∈ [opened q, closed q]) : e.Before f ∨ f.Before e := by
  simp only [List.mem_cons, List.not_mem_nil, or_false] at he hf
  rcases he with rfl | rfl <;> rcases hf with rfl | rfl <;>
    simp only [Before, opened, closed, sideRank, true_and, Int.lt_irrefl, false_or] <;> omega

/-- The markers of two units that are nested or apart do not cross. -/
theorem not_crossing (h : p.1.span.Nested q.1.span) : ¬ ((opened p).Before (opened q) ∧
    (opened q).Before (closed p) ∧ (closed p).Before (closed q)) := by
  have hp := p.1.nonempty
  have hq := q.1.nonempty
  simp only [Span.Nested, Span.Contains, Span.Apart, CoverableUnit.span] at h
  simp only [Before, opened, closed, sideRank]
  omega

/-! ## Reading -/

theorem opened_inj (h : opened p = opened q) : p = q := by
  simp only [opened, mk.injEq, MarkerEvent.mk.injEq] at h
  exact Prod.ext h.1.2.2 (by omega)

theorem closed_inj (h : closed p = closed q) : p = q := by
  simp only [closed, mk.injEq, MarkerEvent.mk.injEq] at h
  exact Prod.ext h.1.2.2 (by omega)

theorem closed_ne_opened : closed p ≠ opened q := by
  intro h
  simp [opened, closed] at h

theorem Before.irrefl {e : RankedEvent} : ¬ e.Before e := by
  simp only [Before]
  omega

theorem Before.asymm {e f : RankedEvent} (h : e.Before f) : ¬ f.Before e := by
  simp only [Before] at *
  omega

/-- What holds between the open units and the markers still to be read: the markers are in order and belong to
`pairs`, an open unit was opened before them and is to be closed, what is to be opened is to be closed, and what is
to be closed is open or to be opened. Of two open units the upper one was opened later. -/
structure Reads (pairs stack : List (CoverableUnit × Nat)) (events : List RankedEvent) : Prop where
  sorted : events.Pairwise Before
  of_pairs : ∀ e ∈ events, ∃ p ∈ pairs, e = opened p ∨ e = closed p
  stack_pairs : ∀ p ∈ stack, p ∈ pairs
  stack_before : ∀ p ∈ stack, ∀ e ∈ events, (opened p).Before e
  stack_closed : ∀ p ∈ stack, closed p ∈ events
  closed_of_opened : ∀ p ∈ pairs, opened p ∈ events → closed p ∈ events
  opened_or_stack : ∀ p ∈ pairs, closed p ∈ events → opened p ∈ events ∨ p ∈ stack
  stack_sorted : stack.Pairwise fun p q => (opened q).Before (opened p)

variable {pairs stack : List (CoverableUnit × Nat)} {rest : List RankedEvent}

/-- An opening marker puts its unit on the stack. -/
theorem Reads.opened_step (h : Reads pairs stack (opened p :: rest)) (hp : p ∈ pairs) : Reads pairs (p :: stack) rest := by
  obtain ⟨hfirst, hsorted⟩ := List.pairwise_cons.1 h.sorted
  have hrest : ∀ q, closed q ∈ opened p :: rest → closed q ∈ rest := fun q hq =>
    (List.mem_cons.1 hq).resolve_left closed_ne_opened
  refine ⟨hsorted, fun e he => h.of_pairs e (List.mem_cons_of_mem _ he), ?_, ?_, ?_, ?_, ?_, ?_⟩
  · intro q hq
    rcases List.mem_cons.1 hq with rfl | hq
    · exact hp
    · exact h.stack_pairs q hq
  · intro q hq e he
    rcases List.mem_cons.1 hq with rfl | hq
    · exact hfirst e he
    · exact h.stack_before q hq e (List.mem_cons_of_mem _ he)
  · intro q hq
    rcases List.mem_cons.1 hq with rfl | hq
    · exact hrest q (h.closed_of_opened q hp (by simp))
    · exact hrest q (h.stack_closed q hq)
  · intro q hq ho
    exact hrest q (h.closed_of_opened q hq (List.mem_cons_of_mem _ ho))
  · intro q hq hc
    rcases h.opened_or_stack q hq (List.mem_cons_of_mem _ hc) with ho | hs
    · rcases List.mem_cons.1 ho with heq | ho
      · rw [opened_inj heq]; exact Or.inr (by simp)
      · exact Or.inl ho
    · exact Or.inr (List.mem_cons_of_mem _ hs)
  · exact List.pairwise_cons.2 ⟨fun q hq => h.stack_before q hq _ (by simp), h.stack_sorted⟩

/-- A closing marker belongs to the unit on top, if no markers cross. -/
theorem Reads.closed_step (h : Reads pairs stack (closed p :: rest)) (hp : p ∈ pairs)
    (hcross : ∀ p ∈ pairs, ∀ q ∈ pairs, ¬ ((opened p).Before (opened q) ∧ (opened q).Before (closed p) ∧
      (closed p).Before (closed q))) : ∃ below, stack = p :: below ∧ Reads pairs below rest := by
  obtain ⟨hfirst, hsorted⟩ := List.pairwise_cons.1 h.sorted
  have hopen : ∀ q, opened q ∈ closed p :: rest → opened q ∈ rest := fun q hq =>
    (List.mem_cons.1 hq).resolve_left fun heq => closed_ne_opened heq.symm
  have hmem : p ∈ stack := by
    refine (h.opened_or_stack p hp (by simp)).resolve_left fun ho => ?_
    exact (opened_before_closed p).asymm (hfirst _ (hopen p ho))
  obtain ⟨top, below, rfl⟩ : ∃ top below, stack = top :: below := List.exists_cons_of_ne_nil (List.ne_nil_of_mem hmem)
  obtain ⟨htop, hbelow⟩ := List.pairwise_cons.1 h.stack_sorted
  -- a unit above `p` was opened later and is closed later, so its markers would cross those of `p`
  have heq : p = top := by
    by_contra hne
    have hpbelow : p ∈ below := (List.mem_cons.1 hmem).resolve_left hne
    have hclosed : closed top ∈ rest := (List.mem_cons.1 (h.stack_closed top (by simp))).resolve_left
      fun heq => hne (closed_inj heq).symm
    exact hcross p hp top (h.stack_pairs top (by simp))
      ⟨htop p hpbelow, h.stack_before top (by simp) _ (by simp), hfirst _ hclosed⟩
  subst heq
  have hrest : ∀ q, q ≠ p → closed q ∈ closed p :: rest → closed q ∈ rest := fun q hq hc =>
    (List.mem_cons.1 hc).resolve_left fun heq => hq (closed_inj heq)
  have hne : ∀ q ∈ below, q ≠ p := fun q hq heq => by
    subst heq
    exact (htop q hq).irrefl
  refine ⟨below, rfl, hsorted, fun e he => h.of_pairs e (List.mem_cons_of_mem _ he), ?_, ?_, ?_, ?_, ?_, hbelow⟩
  · exact fun q hq => h.stack_pairs q (List.mem_cons_of_mem _ hq)
  · exact fun q hq e he => h.stack_before q (List.mem_cons_of_mem _ hq) e (List.mem_cons_of_mem _ he)
  · exact fun q hq => hrest q (hne q hq) (h.stack_closed q (List.mem_cons_of_mem _ hq))
  · intro q hq ho
    refine hrest q ?_ (h.closed_of_opened q hq (List.mem_cons_of_mem _ ho))
    rintro rfl
    exact (opened_before_closed q).asymm (hfirst _ ho)
  · intro q hq hc
    rcases h.opened_or_stack q hq (List.mem_cons_of_mem _ hc) with ho | hs
    · exact Or.inl (hopen q ho)
    · rcases List.mem_cons.1 hs with rfl | hs
      · exact absurd (hfirst _ hc) Before.irrefl
      · exact Or.inr hs

/-- Reading markers that do not cross closes everything that is open. -/
theorem Reads.openAfter_eq {events : List RankedEvent} (h : Reads pairs stack events)
    (hcross : ∀ p ∈ pairs, ∀ q ∈ pairs, ¬ ((opened p).Before (opened q) ∧ (opened q).Before (closed p) ∧
      (closed p).Before (closed q))) : openAfter (stack.map (·.1)) (events.map (·.event)) = some [] := by
  induction events generalizing stack with
  | nil =>
    cases stack with
    | nil => rfl
    | cons p _ => exact absurd (h.stack_closed p (by simp)) (by simp)
  | cons e rest ih =>
    obtain ⟨p, hp, rfl | rfl⟩ := h.of_pairs e (by simp)
    · exact ih (h.opened_step hp)
    · obtain ⟨below, rfl, hbelow⟩ := h.closed_step hp hcross
      have hstep : openAfter ((p :: below).map (·.1)) ((closed p :: rest).map (·.event)) =
          openAfter (below.map (·.1)) (rest.map (·.event)) := by
        simp [openAfter, closed]
      rw [hstep]
      exact ih hbelow

end RankedEvent

/-! ## The markers of units -/

namespace RankedEvent

/-- The markers of units with their ranks have different keys. -/
theorem pairwise_differ (units : List CoverableUnit) :
    (units.zipIdx.flatMap fun p => [opened p, closed p]).Pairwise fun e f => e.Before f ∨ f.Before e := by
  have hnumbers : units.zipIdx.Pairwise fun p q => p.2 ≠ q.2 := by
    have hnodup : (units.zipIdx.map Prod.snd).Nodup := by
      rw [List.zipIdx_map_snd]
      exact List.nodup_range'
    exact List.pairwise_map.1 hnodup
  rw [List.pairwise_flatMap]
  refine ⟨fun p _ => ?_, hnumbers.imp fun hpq e he f hf => before_or_before hpq he hf⟩
  exact List.pairwise_pair.2 (Or.inl (opened_before_closed p))

/-- Before any marker is read no unit is open. -/
theorem reads_mergeSort (units : List CoverableUnit) :
    Reads units.zipIdx [] ((units.zipIdx.flatMap fun p => [opened p, closed p]).mergeSort le) := by
  refine ⟨pairwise_before (pairwise_differ units), ?_, by simp, by simp, by simp, ?_, ?_, List.Pairwise.nil⟩
  · intro e he
    simpa using he
  · intro p hp _
    simp only [List.mem_mergeSort, List.mem_flatMap]
    exact ⟨p, hp, by simp⟩
  · intro p hp _
    simp only [List.mem_mergeSort, List.mem_flatMap]
    exact Or.inl ⟨p, hp, by simp⟩

end RankedEvent

/-- **Markers nest.** The markers of units that are pairwise nested or apart are properly nested. -/
theorem markerEvents_nested {units : List CoverableUnit} (h : units.Pairwise fun u v => u.span.Nested v.span) :
    ProperlyNested (markerEvents units) := by
  have hself : ∀ u ∈ units, u.span.Nested u.span := fun u _ => Or.inl (Span.Contains.refl u.span)
  have hall := List.Pairwise.forall_of_forall_of_flip hself h (h.imp Span.Nested.symm)
  refine (RankedEvent.reads_mergeSort units).openAfter_eq ?_
  intro p hp q hq
  exact RankedEvent.not_crossing (hall (List.fst_mem_of_mem_zipIdx hp) (List.fst_mem_of_mem_zipIdx hq))

end ScriptCoverage
