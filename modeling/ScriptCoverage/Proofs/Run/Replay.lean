import ScriptCoverage.Proofs.Probe.Tracking
import ScriptCoverage.Run.Engine

/-!
# What an evaluation does

A plan lists calls with repetitions, and replaying it threads the state of the evaluation through all of them.
Here the calls are taken one by one: `HostCall.stop?` says whether a call ends the evaluation, `received` which
arguments reach the tracker until then, and `Plan.ending` how the evaluation ends. `Plan.replay_spec` says that
replaying does just that.
-/

namespace ScriptCoverage

/-! ## Calls one by one -/

namespace HostCall

variable (known : Value → Bool) (globals : List String)

/-- The error with which a single call ends the evaluation, if it does. -/
def stop? (c : HostCall) : Option EngineError :=
  if c.name ∈ globals then if known c.argument || c.caught then none else some .hostCallFailed
  else some (.undefinedGlobal c.name)

/-- The arguments that reach the tracker, of single calls that are made until one ends the evaluation. -/
def received : List HostCall → List Value
  | [] => []
  | c :: rest =>
    if c.name ∈ globals then c.argument :: (if (c.stop? known globals).isNone then received rest else []) else []

/-- Calls with the repetitions written out. -/
def single (calls : List HostCall) : List HostCall :=
  calls.flatMap fun c => List.replicate c.times { c with times := 1 }

@[simp] theorem received_nil : received known globals [] = [] := rfl

variable {known globals}

theorem received_append (calls rest : List HostCall) :
    received known globals (calls ++ rest) = received known globals calls ++
      if (calls.findSome? (stop? known globals)).isNone then received known globals rest else [] := by
  induction calls with
  | nil => simp
  | cons c calls ih =>
    simp only [List.cons_append, received, List.findSome?_cons]
    by_cases hname : c.name ∈ globals
    · rcases Option.eq_none_or_eq_some (c.stop? known globals) with hstop | ⟨e, hstop⟩
      · simp [hname, hstop, ih]
      · simp [hname, hstop]
    · simp [hname, stop?]

end HostCall

/-- How an evaluation ends: with the error of the call that ends it, or else as the plan says. -/
def Plan.ending (plan : Plan) (known : Value → Bool) (globals : List String) : Except EngineError Value :=
  match (HostCall.single plan.calls).findSome? (HostCall.stop? known globals) with
  | some e => .error e
  | none => match plan.throws with
    | some text => .error (.thrown text)
    | none => .ok plan.result

/-- The arguments that reach the tracker during an evaluation. -/
def Plan.received (plan : Plan) (known : Value → Bool) (globals : List String) : List Value :=
  HostCall.received known globals (HostCall.single plan.calls)

/-! ## Replaying -/

namespace Replay

/-- An evaluation went on to a later state, in which the tracker has received some arguments. The outside world
has seen nothing but refusals. -/
structure Follows (r : Replay) (arguments : List Value) (after : Replay) : Prop where
  tracker_eq : after.tracker = r.tracker.trackAll arguments
  events_eq : ∃ refusals : List IdError, after.events = r.events ++ refusals.map .refused

theorem Follows.refl (r : Replay) : r.Follows [] r := ⟨rfl, [], by simp⟩

theorem Follows.trans {r s t : Replay} {arguments rest : List Value} (h : r.Follows arguments s)
    (h' : s.Follows rest t) : r.Follows (arguments ++ rest) t := by
  obtain ⟨first, hfirst⟩ := h.events_eq
  obtain ⟨later, hlater⟩ := h'.events_eq
  refine ⟨by rw [h'.tracker_eq, h.tracker_eq, Tracker.trackAll_append], first ++ later, ?_⟩
  rw [hlater, hfirst, List.append_assoc, List.map_append]

/-- What the tracker knows does not change. -/
theorem Follows.knows_eq {r after : Replay} {arguments : List Value} (h : r.Follows arguments after) :
    after.tracker.registry.knows = r.tracker.registry.knows := by
  funext argument
  exact Registry.knows_of_size (by rw [h.tracker_eq, Tracker.size_trackAll]) argument

theorem call_spec (r : Replay) (argument : Value) (caught : Bool) :
    (r.call argument caught).1 =
        (if r.tracker.registry.knows argument || caught then none else some .hostCallFailed) ∧
      r.Follows [argument] (r.call argument caught).2 := by
  cases h : r.tracker.registry.knows argument
  · simp only [call, Tracker.track_unknown h, Bool.false_or, true_and]
    exact ⟨by simp [Tracker.track_unknown h], [_], rfl⟩
  · obtain ⟨position, -, -, ht⟩ := Tracker.track_known h
    simp only [call, ht, Bool.true_or, if_true, true_and]
    exact ⟨by simp [ht], [], by simp⟩

theorem repeatCall_spec {globals : List String} {c : HostCall} (hname : c.name ∈ globals) (times : Nat) (r : Replay) :
    (r.repeatCall c.argument c.caught times).1 =
        (List.replicate times c).findSome? (HostCall.stop? r.tracker.registry.knows globals) ∧
      r.Follows (HostCall.received r.tracker.registry.knows globals (List.replicate times c))
        (r.repeatCall c.argument c.caught times).2 := by
  induction times generalizing r with
  | zero => exact ⟨rfl, Follows.refl r⟩
  | succ times ih =>
    obtain ⟨hstop, hfollows⟩ := call_spec r c.argument c.caught
    have hc : c.stop? r.tracker.registry.knows globals = (r.call c.argument c.caught).1 := by
      rw [hstop, HostCall.stop?, if_pos hname]
    simp only [repeatCall, List.replicate_succ, List.findSome?_cons, HostCall.received, hname, if_true, hc]
    rcases hcall : r.call c.argument c.caught with ⟨outcome, after⟩
    rw [hcall] at hfollows
    cases outcome with
    | some e => exact ⟨rfl, hfollows⟩
    | none =>
      obtain ⟨hnext, hrest⟩ := ih after
      rw [hfollows.knows_eq] at hnext hrest
      exact ⟨hnext, hfollows.trans hrest⟩

theorem calls_spec (globals : List String) (calls : List HostCall) (r : Replay) :
    (Replay.calls globals r calls).1 =
        (HostCall.single calls).findSome? (HostCall.stop? r.tracker.registry.knows globals) ∧
      r.Follows (HostCall.received r.tracker.registry.knows globals (HostCall.single calls))
        (Replay.calls globals r calls).2 := by
  induction calls generalizing r with
  | nil => exact ⟨rfl, Follows.refl r⟩
  | cons c rest ih =>
    have hsingle : HostCall.single (c :: rest) = List.replicate c.times { c with times := 1 } ++ HostCall.single rest := rfl
    rw [hsingle, HostCall.received_append, List.findSome?_append]
    by_cases hname : c.name ∈ globals
    · obtain ⟨hstop, hfollows⟩ := repeatCall_spec (c := { c with times := 1 }) hname c.times r
      simp only [Replay.calls, hname, or_true, if_true]
      rw [← hstop]
      rcases hcall : r.repeatCall c.argument c.caught c.times with ⟨outcome, after⟩
      rw [hcall] at hfollows
      cases outcome with
      | some e => exact ⟨rfl, by simpa using hfollows⟩
      | none =>
        obtain ⟨hnext, hrest⟩ := ih after
        rw [hfollows.knows_eq] at hnext hrest
        exact ⟨by simpa using hnext, by simpa using hfollows.trans hrest⟩
    · by_cases hzero : c.times = 0
      · simp only [Replay.calls, hzero, true_or, if_true, repeatCall, List.replicate_zero]
        simpa using ih r
      · -- the first of the calls already ends the evaluation
        obtain ⟨times, htimes⟩ := Nat.exists_eq_succ_of_ne_zero hzero
        have hcalls : Replay.calls globals r (c :: rest) = (some (.undefinedGlobal c.name), r) := by
          simp [Replay.calls, hzero, hname]
        rw [hcalls, htimes, List.replicate_succ]
        simp only [List.findSome?_cons, HostCall.stop?, hname, if_false, HostCall.received]
        exact ⟨rfl, Follows.refl r⟩

end Replay

/-- **Replaying.** An evaluation ends as the plan's calls and its tracker's registry determine, and the tracker has
received the arguments of the calls that were made. -/
theorem Plan.replay_spec (plan : Plan) (globals : List String) (tracker : Tracker) :
    (plan.replay globals tracker).1 = plan.ending tracker.registry.knows globals ∧
      (plan.replay globals tracker).2.tracker =
        tracker.trackAll (plan.received tracker.registry.knows globals) ∧
      ∃ refusals : List IdError, (plan.replay globals tracker).2.events = refusals.map .refused := by
  obtain ⟨hstop, htracker, refusals, hevents⟩ := Replay.calls_spec globals plan.calls { tracker }
  simp only [Plan.replay, Plan.ending]
  rw [← hstop]
  rcases hcalls : Replay.calls globals { tracker } plan.calls with ⟨outcome, after⟩
  rw [hcalls] at htracker hevents
  cases outcome with
  | some e => exact ⟨rfl, htracker, refusals, by simpa using hevents⟩
  | none => cases plan.throws <;> exact ⟨rfl, htracker, refusals, by simpa using hevents⟩

end ScriptCoverage
