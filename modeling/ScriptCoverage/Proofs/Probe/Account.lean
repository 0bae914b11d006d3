import ScriptCoverage.Proofs.Probe.Tracking
import ScriptCoverage.Session.Failure
import Mathlib.Data.List.DropRight
import Mathlib.Data.List.Induction

/-!
# The account that a tracker keeps

Units can be registered and looked up, calls can be tracked and the pending violation can be taken, in any order.
`units_step` and `violation_step` say what one step does, and `accounts_after` what holds after every history of steps:
each unit is as it was registered and has counted the calls since then that named it, and the pending violation is the
first unknown-id error that a call ended with since the last taking. Both look back from the end of the history, so the
induction is on its last step. A call that names no unit ends with that error unless its argument is, or holds, an
integer of so many digits that the error's text cannot be made (`step_track_unknown`).
-/

namespace ScriptCoverage

/-- What can be done with a registry and its tracker. -/
inductive TrackerStep where
  | register (span : Span) (kind : UnitKind) (shape : NodeKind) (isExpression : Bool)
  | get (id : Value)
  | track (argument : Value)
  | takeViolation

/-- What a step that is not refused answers. -/
inductive TrackerAnswer where
  | unit (u : CoverableUnit)
  | violation (pending : Option UnknownUnit)
  | nothing

namespace TrackerStep

/-- Whether a step makes a unit. -/
def registers : TrackerStep → Bool
  | register span _ _ _ => decide (span.start < span.stop)
  | _ => false

/-- Whether a step is a call that names the unit at a position. -/
def counts (position : Nat) : TrackerStep → Bool
  | track argument => argument.namesUnit position
  | _ => false

def takes : TrackerStep → Bool
  | takeViolation => true
  | _ => false

/-- What a step needs of a registry of some size. A unit is looked up by an integer and nothing else, a call may name
it by an equal number as well. -/
def Accepted (size : Nat) : TrackerStep → Prop
  | register span _ _ _ => span.start < span.stop
  | get id => ∃ position < size, id = .int position
  | track argument => ∃ position < size, argument.namesUnit position = true
  | takeViolation => True

/-- The steps of a history up to the last taking, with it. -/
def untilTaking (history : List TrackerStep) : List TrackerStep := history.rdropWhile fun s => !s.takes

/-- The steps of a history since the last taking. -/
def sinceTaking (history : List TrackerStep) : List TrackerStep := history.rtakeWhile fun s => !s.takes

/-- The unit that a step makes, if it makes one. -/
def made (r : Registry) : TrackerStep → List CoverableUnit
  | register span kind shape isExpression =>
    if h : span.start < span.stop then [(r.add span kind shape isExpression h).1] else []
  | _ => []

/-- A step makes at most one unit, and then it counts for none. -/
theorem made_cases (r : Registry) (s : TrackerStep) :
    s.made r = [] ∨ ∃ u, s.made r = [u] ∧ ∀ position, s.counts position = false := by
  cases s with
  | register span kind shape isExpression =>
    by_cases h : span.start < span.stop
    · exact Or.inr ⟨_, dif_pos h, fun _ => rfl⟩
    · exact Or.inl (dif_neg h)
  | get id => exact Or.inl rfl
  | track argument => exact Or.inl rfl
  | takeViolation => exact Or.inl rfl

end TrackerStep

/-- A lookup finds the unit at the position that the id is. -/
theorem Registry.get_eq_ok {r : Registry} {id : Value} {u : CoverableUnit} :
    r.get id = .ok u ↔ ∃ position : Nat, id = .int position ∧ r.units[position]? = some u := by
  unfold get
  split
  · rename_i v hv
    obtain ⟨position, hposition, hunit⟩ := Option.bind_eq_some_iff.1 hv
    obtain ⟨rfl, -⟩ := position?_eq_some.1 hposition
    simp only [Except.ok.injEq, Value.scalar.injEq, Scalar.int.injEq, Int.natCast_inj, exists_eq_left', hunit,
      Option.some.injEq]
  · rename_i hnone
    refine iff_of_false (by simp) ?_
    rintro ⟨position, rfl, hunit⟩
    have hlt : position < r.size := (List.getElem?_eq_some_iff.1 hunit).1
    rw [position?_eq_some.2 ⟨rfl, hlt⟩, Option.bind_some, hunit] at hnone
    cases hnone

namespace Tracker

/-- One step. What is refused leaves the registry to itself; only a call leaves a violation. -/
def step (t : Tracker) : TrackerStep → Except Failure TrackerAnswer × Tracker
  | .register span kind shape isExpression =>
    match t.registry.register span kind shape isExpression with
    | .ok (u, registry) => (.ok (.unit u), { t with registry })
    | .error e => (.error (.emptyRange e), t)
  | .get id =>
    match t.registry.get id with
    | .ok u => (.ok (.unit u), t)
    | .error e => (.error (.ofId e), t)
  | .track argument =>
    match t.track argument with
    | (.ok (), t) => (.ok .nothing, t)
    | (.error e, t) => (.error (.ofId e), t)
  | .takeViolation => (.ok (.violation t.takeViolation.1), t.takeViolation.2)

/-- The tracker after some steps, whatever these answer. -/
def after (t : Tracker) (history : List TrackerStep) : Tracker := history.foldl (fun t s => (t.step s).2) t

/-- The unknown-id error that a step ends with, if it is a call that ends with one. -/
def refusal? (t : Tracker) : TrackerStep → Option UnknownUnit
  | .track argument =>
    match (t.track argument).1 with
    | .error (.unknown e) => some e
    | _ => none
  | _ => none

/-- The unknown-id errors that the calls among some steps end with. -/
def refusals (t : Tracker) : List TrackerStep → List UnknownUnit
  | [] => []
  | s :: rest => (t.refusal? s).toList ++ refusals (t.step s).2 rest

/-! ## One step -/

theorem step_get (t : Tracker) (id : Value) : (t.step (.get id)).2 = t := by
  unfold step
  dsimp only
  split <;> rfl

theorem step_track (t : Tracker) (argument : Value) : (t.step (.track argument)).2 = (t.track argument).2 := by
  unfold step
  dsimp only
  split <;> simp_all

theorem track_source (t : Tracker) (argument : Value) :
    (t.track argument).2.registry.source = t.registry.source := by
  cases h : t.registry.knows argument
  · rw [track_unknown h]
  · obtain ⟨position, -, -, ht⟩ := track_known h
    rw [ht]
    rfl

/-- A registration puts its unit behind the others, a call counts the unit that it names. -/
theorem units_step (t : Tracker) (s : TrackerStep) (position : Nat) :
    (t.step s).2.registry.units[position]? = ((t.registry.units ++ s.made t.registry)[position]?).map fun u =>
      if s.counts position then u.countExecution else u := by
  cases s with
  | register span kind shape isExpression =>
    by_cases h : span.start < span.stop <;>
      simp [step, Registry.register, Registry.add, TrackerStep.made, TrackerStep.counts, h]
  | get id => simp [step_get, TrackerStep.made, TrackerStep.counts]
  | track argument =>
    have hmade : (TrackerStep.track argument).made t.registry = [] := rfl
    rw [step_track, units_track, hmade, List.append_nil]
    rfl
  | takeViolation => simp [step, takeViolation, TrackerStep.made, TrackerStep.counts]

theorem size_step (t : Tracker) (s : TrackerStep) :
    (t.step s).2.registry.size = t.registry.size + if s.registers then 1 else 0 := by
  cases s with
  | register span kind shape isExpression =>
    by_cases h : span.start < span.stop <;>
      simp [step, Registry.register, Registry.add, Registry.size, TrackerStep.registers, h]
  | get id => simp [step_get, TrackerStep.registers]
  | track argument => simp [step_track, TrackerStep.registers]
  | takeViolation => simp [step, takeViolation, TrackerStep.registers]

theorem source_step (t : Tracker) (s : TrackerStep) : (t.step s).2.registry.source = t.registry.source := by
  cases s with
  | register span kind shape isExpression =>
    by_cases h : span.start < span.stop <;> simp [step, Registry.register, Registry.add, h]
  | get id => rw [step_get]
  | track argument => rw [step_track, track_source]
  | takeViolation => rfl

/-- The answer to a call that names no unit: the unknown-id error, or else why the id cannot be written into it. -/
theorem step_track_unknown {t : Tracker} {argument : Value}
    (h : ∀ position < t.registry.size, argument.namesUnit position = false) :
    (t.step (.track argument)).1 = .error (if (idOf argument).isWritable then
      .unknownUnit ⟨(idOf argument).literal, t.registry.size⟩ else .conversion .tooLongToWrite) := by
  have hknows : t.registry.knows argument = false := by
    rw [← Bool.not_eq_true, knows_iff]
    simpa using h
  simp only [step, track_unknown hknows, Registry.refusal, Value.checkedLiteral]
  cases (idOf argument).isWritable <;> rfl

theorem refusal?_track (t : Tracker) (argument : Value) :
    t.refusal? (.track argument) = t.registry.violation? argument := by
  unfold refusal? Registry.violation?
  dsimp only
  cases h : t.registry.knows argument
  · rw [track_unknown h]
    cases t.registry.refusal (idOf argument) <;> rfl
  · obtain ⟨position, -, -, ht⟩ := track_known h
    rw [ht]
    rfl

/-- A taking leaves no violation. Otherwise one that is pending stays, and the unknown-id error of a call becomes
pending if there is none. -/
theorem violation_step (t : Tracker) (s : TrackerStep) :
    (t.step s).2.violation = if s.takes then none else t.violation.or (t.refusal? s) := by
  cases s with
  | register span kind shape isExpression =>
    by_cases h : span.start < span.stop <;> simp [step, Registry.register, refusal?, TrackerStep.takes, h]
  | get id => simp [step_get, refusal?, TrackerStep.takes]
  | track argument =>
    rw [step_track, refusal?_track, violation_track]
    rfl
  | takeViolation => rfl

/-- What a registry accepts and what not. -/
theorem accepts_step (t : Tracker) (s : TrackerStep) :
    (∃ answer, (t.step s).1 = .ok answer) ↔ s.Accepted t.registry.size := by
  cases s with
  | register span kind shape isExpression =>
    by_cases h : span.start < span.stop <;> simp [step, Registry.register, TrackerStep.Accepted, h]
  | get id =>
    have hget : (∃ answer, (t.step (.get id)).1 = .ok answer) ↔ ∃ u, t.registry.get id = .ok u := by
      rw [step]
      cases t.registry.get id <;> simp
    simp only [hget, Registry.get_eq_ok, TrackerStep.Accepted]
    constructor
    · rintro ⟨u, position, hid, hunit⟩
      exact ⟨position, (List.getElem?_eq_some_iff.1 hunit).1, hid⟩
    · rintro ⟨position, hlt, hid⟩
      exact ⟨_, position, hid, List.getElem?_eq_getElem hlt⟩
  | track argument =>
    rw [TrackerStep.Accepted, ← knows_iff, step]
    cases h : t.registry.knows argument
    · rw [track_unknown h]
      simp
    · obtain ⟨position, -, -, ht⟩ := track_known h
      rw [ht]
      simp
  | takeViolation => exact iff_of_true ⟨_, rfl⟩ trivial

/-- A step that is refused leaves the registry as it is. -/
theorem registry_of_refused {t : Tracker} {s : TrackerStep} {e : Failure} (h : (t.step s).1 = .error e) :
    (t.step s).2.registry = t.registry := by
  cases s with
  | register span kind shape isExpression =>
    by_cases hspan : span.start < span.stop
    · simp [step, Registry.register, hspan] at h
    · simp [step, Registry.register, hspan]
  | get id => rw [step_get]
  | track argument =>
    rw [step_track]
    cases hknows : t.registry.knows argument
    · rw [track_unknown hknows]
    · obtain ⟨position, -, -, ht⟩ := track_known hknows
      simp [step, ht] at h
  | takeViolation => cases h

/-! ## Histories -/

theorem after_concat (t : Tracker) (history : List TrackerStep) (s : TrackerStep) :
    t.after (history ++ [s]) = ((t.after history).step s).2 := by
  simp [after]

theorem after_append (t : Tracker) (history rest : List TrackerStep) :
    t.after (history ++ rest) = (t.after history).after rest := by
  simp [after]

theorem refusals_concat (t : Tracker) (history : List TrackerStep) (s : TrackerStep) :
    t.refusals (history ++ [s]) = t.refusals history ++ ((t.after history).refusal? s).toList := by
  induction history generalizing t with
  | nil => simp [refusals, after]
  | cons first rest ih =>
    rw [List.cons_append, refusals, ih, refusals, List.append_assoc]
    rfl

end Tracker

/-- The unit that a history registered under an id: its source slice is that of its range, and it has counted the
calls since its registration that named it. -/
def RegisteredIn (source : Text) (history : List TrackerStep) (position : Nat) (u : CoverableUnit) : Prop :=
  ∃ (before rest : List TrackerStep) (span : Span) (kind : UnitKind) (shape : NodeKind) (isExpression : Bool)
    (nonempty : span.start < span.stop),
    history = before ++ .register span kind shape isExpression :: rest ∧
    before.countP TrackerStep.registers = position ∧
    u = { id := position, start := span.start, stop := span.stop, kind, shape, isExpression
          code := source.slice span.start span.stop
          executionCount := rest.countP (TrackerStep.counts position), nonempty }

namespace RegisteredIn

variable {source : Text} {history : List TrackerStep} {position : Nat} {u : CoverableUnit}

theorem position_lt (h : RegisteredIn source history position u) : position < history.countP TrackerStep.registers := by
  obtain ⟨before, rest, span, kind, shape, isExpression, nonempty, rfl, rfl, -⟩ := h
  have hregisters : TrackerStep.registers (.register span kind shape isExpression) = true := decide_eq_true nonempty
  rw [List.countP_append, List.countP_cons_of_pos hregisters]
  omega

/-- A further step counts for the units that there are, or registers one more. -/
theorem concat_iff {r : Registry} {s : TrackerStep} (hsource : r.source = source)
    (hsize : r.size = history.countP TrackerStep.registers) :
    RegisteredIn source (history ++ [s]) position u ↔
      (∃ v, RegisteredIn source history position v ∧ u = if s.counts position then v.countExecution else v) ∨
        r.size = position ∧ u ∈ s.made r := by
  constructor
  · rintro ⟨before, rest, span, kind, shape, isExpression, nonempty, hsplit, hposition, rfl⟩
    rcases List.eq_nil_or_concat rest with rfl | ⟨rest, last, rfl⟩
    · -- the registration is the last step
      obtain ⟨rfl, hs⟩ := List.append_inj' hsplit rfl
      cases hs
      refine Or.inr ⟨hsize.trans hposition, ?_⟩
      simp [TrackerStep.made, nonempty, Registry.add, hsize, hposition, hsource]
    · rw [List.concat_eq_append, ← List.cons_append, ← List.append_assoc] at hsplit
      obtain ⟨rfl, hs⟩ := List.append_inj' hsplit rfl
      cases hs
      refine Or.inl ⟨_, ⟨before, rest, span, kind, shape, isExpression, nonempty, rfl, hposition, rfl⟩, ?_⟩
      by_cases hcounts : s.counts position = true <;>
        simp [List.countP_append, hcounts, CoverableUnit.countExecution]
  · rintro (⟨v, ⟨before, rest, span, kind, shape, isExpression, nonempty, rfl, hposition, rfl⟩, rfl⟩ | ⟨rfl, hmade⟩)
    · refine ⟨before, rest ++ [s], span, kind, shape, isExpression, nonempty, by simp, hposition, ?_⟩
      by_cases hcounts : s.counts position = true <;>
        simp [List.countP_append, hcounts, CoverableUnit.countExecution]
    · cases s with
      | register span kind shape isExpression =>
        by_cases nonempty : span.start < span.stop
        · refine ⟨history, [], span, kind, shape, isExpression, nonempty, rfl, hsize.symm, ?_⟩
          simpa [TrackerStep.made, nonempty, Registry.add, hsource] using hmade
        · simp [TrackerStep.made, nonempty] at hmade
      | get id => cases hmade
      | track argument => cases hmade
      | takeViolation => cases hmade

end RegisteredIn

namespace Tracker

/-- A tracker whose registry has no units yet. -/
def fresh (source : Text) : Tracker := { registry := { source } }

variable (source : Text) (history : List TrackerStep)

theorem source_after : ((fresh source).after history).registry.source = source := by
  induction history using List.reverseRecOn with
  | nil => rfl
  | append_singleton history s ih => rw [after_concat, source_step, ih]

theorem size_after : ((fresh source).after history).registry.size = history.countP TrackerStep.registers := by
  induction history using List.reverseRecOn with
  | nil => rfl
  | append_singleton history s ih => rw [after_concat, size_step, ih, List.countP_append, List.countP_singleton]

theorem units_after (position : Nat) (u : CoverableUnit) :
    ((fresh source).after history).registry.units[position]? = some u ↔ RegisteredIn source history position u := by
  induction history using List.reverseRecOn generalizing u with
  | nil =>
    refine iff_of_false (by simp [fresh, after]) ?_
    rintro ⟨before, rest, _, _, _, _, _, hsplit, -⟩
    simp at hsplit
  | append_singleton history s ih =>
    have hsize := size_after source history
    rw [after_concat, units_step, RegisteredIn.concat_iff (source_after source history) hsize, Option.map_eq_some_iff]
    by_cases hlt : position < ((fresh source).after history).registry.size
    · rw [List.getElem?_append_left hlt]
      simp only [ih, Nat.ne_of_gt hlt, false_and, or_false, eq_comm]
    · -- there is no unit yet, so what counts is whether the step makes one
      have hnone : ∀ v, ¬ RegisteredIn source history position v := fun v hv => hlt (hsize ▸ hv.position_lt)
      rw [List.getElem?_append_right (Nat.le_of_not_lt hlt)]
      simp only [hnone, false_and, exists_false, false_or]
      rcases s.made_cases ((fresh source).after history).registry with hmade | ⟨v, hmade, hcounts⟩
      · simp [hmade]
      · rw [hmade, hcounts]
        simp only [List.mem_singleton, Bool.false_eq_true, if_false, exists_eq_right]
        change [v][position - ((fresh source).after history).registry.size]? = some u ↔ _
        rw [List.getElem?_singleton]
        by_cases hposition : ((fresh source).after history).registry.size = position
        · rw [if_pos (by omega), Option.some.injEq, and_iff_right hposition, eq_comm]
        · rw [if_neg (by omega)]
          simp [hposition]

/-- The errors since the last taking go on with what the last step adds. -/
theorem violation_after : ((fresh source).after history).violation =
    (refusals ((fresh source).after (TrackerStep.untilTaking history)) (TrackerStep.sinceTaking history)).head? := by
  induction history using List.reverseRecOn with
  | nil => rfl
  | append_singleton history s ih =>
    rw [after_concat, violation_step]
    unfold TrackerStep.untilTaking TrackerStep.sinceTaking at *
    by_cases hs : s.takes = true
    · rw [if_pos hs, List.rtakeWhile_concat_neg _ _ _ (by simp [hs])]
      rfl
    · have hkeep : (!s.takes) = true := by simpa using hs
      rw [if_neg hs, List.rtakeWhile_concat, if_pos hkeep, List.rdropWhile_concat, if_pos hkeep, refusals_concat,
        ← after_append, List.rdropWhile_append_rtakeWhile, ih, List.head?_append]
      cases ((fresh source).after history).refusal? s <;> rfl

/-- What is true of a tracker after a history that began without units. -/
structure Accounts (t : Tracker) : Prop where
  source_eq : t.registry.source = source
  size_eq : t.registry.size = history.countP TrackerStep.registers
  units : ∀ position u, t.registry.units[position]? = some u ↔ RegisteredIn source history position u
  violation : t.violation =
    (refusals ((fresh source).after (TrackerStep.untilTaking history)) (TrackerStep.sinceTaking history)).head?
  accepts : ∀ s, (∃ answer, (t.step s).1 = .ok answer) ↔ s.Accepted t.registry.size
  unknown : ∀ argument, (∀ position < t.registry.size, argument.namesUnit position = false) →
    (t.step (.track argument)).1 = .error (if (idOf argument).isWritable then
      .unknownUnit ⟨(idOf argument).literal, t.registry.size⟩ else .conversion .tooLongToWrite)
  refused : ∀ s e, (t.step s).1 = .error e → (t.step s).2.registry = t.registry

example : ((fresh []).after [.register ⟨0, 1⟩ .block .program false, .track (.float (.finite true 0)),
    .track (.bool false), .track (.int 0), .track .null]).registry.units.map (·.executionCount) = [2] := by decide +kernel

end Tracker

end ScriptCoverage
