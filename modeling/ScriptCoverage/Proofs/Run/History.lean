import ScriptCoverage.Proofs.Run.Pipeline
import ScriptCoverage.Proofs.Run.Replay
import ScriptCoverage.Proofs.Run.Sandbox

/-!
# The life of a run

A run can be executed, evaluate further code, and have its tracker called directly, in any order and against any
plans of the engine. `step_effect` says what one step does, and `after_sound` what holds after every history of
steps: the counts are those of all calls of the tracker so far, the next step that reaches the engine fails with
a violation exactly if its own evaluation had one and ended in an error, and the engine has seen the probe once,
then the instrumented script, then the code of later evaluations.
-/

namespace ScriptCoverage

/-- What can be done with a run. -/
inductive RunStep where
  | execute (sandbox : Option Sandbox)
  | evaluate (code : Text)
  /-- A call of the tracker from outside of any evaluation. -/
  | track (argument : Value)

/-- The part of a step that takes place in the engine: what the outside world sees of it first, and the plan
that is carried out with some globals. -/
structure EngineCall where
  opening : List Event
  globals : List String
  plan : Plan

namespace EngineCall

/-- The arguments that the tracker receives. -/
def received (call : EngineCall) (r : Registry) : List Value := call.plan.received r.knows call.globals

/-- How a step ends that makes the call: as the evaluation ends, except that an error gives way to the first
violation of the evaluation, if it had one. -/
def outcome (call : EngineCall) (r : Registry) : Except Failure Value :=
  match call.plan.ending r.knows call.globals with
  | .ok value => .ok value
  | .error e => match (call.received r).findSome? r.violation? with
    | some violation => .error (.unknownUnit violation)
    | none => .error (.engine e)

end EngineCall

namespace CoverageRun

/-- The sandbox that an execution takes place in: the one that is given, or else a fresh one. -/
def chosen (sandbox : Option Sandbox) (s : Session) : Except Failure Sandbox × Session :=
  match sandbox with
  | some sandbox => (.ok sandbox, s)
  | none => Plugins.freshDefault.exec s

/-- The call of the engine with which a run executes in a sandbox. -/
def execution (run : CoverageRun) (sandbox : Sandbox) (s : Session) : EngineCall where
  opening := [.expose run.probeName, .evaluate run.instrumented.text]
  globals := run.probeName :: sandbox.globals
  plan := s.takePlan.1

/-- The call of the engine that a step makes, if it makes one. -/
def engineCall? (run : CoverageRun) (s : Session) : RunStep → Option EngineCall
  | .execute sandbox =>
    if run.executed then none
    else match chosen sandbox s with
      | (.ok sandbox, s) => some (run.execution sandbox s)
      | (.error _, _) => none
  | .evaluate code => run.sandbox.map fun sandbox =>
    { opening := [.evaluate code], globals := sandbox.globals, plan := s.takePlan.1 }
  | .track _ => none

/-- One step of a run. -/
def step (run : CoverageRun) : RunStep → StateM Session (Except Failure Value × CoverageRun)
  | .execute sandbox => run.execute sandbox
  | .evaluate code => run.evaluate code
  | .track argument =>
    match run.tracker.track argument with
    | (.ok (), tracker) => return (.ok .null, { run with tracker })
    | (.error e, tracker) => do
      modify fun s => { s with log := s.log ++ e.logged }
      return (.error (.ofId e), { run with tracker })

/-- The run and the session after some steps, whatever these end with. -/
def after (run : CoverageRun) (s : Session) : List RunStep → CoverageRun × Session
  | [] => (run, s)
  | step :: rest =>
    let ((_, run), s) := (run.step step).run s
    run.after s rest

/-- The arguments that the tracker receives in one step. -/
def receivedBy (run : CoverageRun) (s : Session) : RunStep → List Value
  | .track argument => [argument]
  | step => match run.engineCall? s step with
    | some call => call.received run.tracker.registry
    | none => []

/-- The arguments that the tracker receives in some steps. -/
def received (run : CoverageRun) (s : Session) : List RunStep → List Value
  | [] => []
  | step :: rest =>
    run.receivedBy s step ++ CoverageRun.received ((run.step step).run s).1.2 ((run.step step).run s).2 rest

end CoverageRun

/-- Whether an event is a call of the engine. -/
def Event.isEngine : Event → Bool
  | .expose _ => true
  | .evaluate _ => true
  | _ => false

/-- What the engine sees of a step of a run that was executed. -/
def RunStep.evaluation? : RunStep → Option Event
  | .evaluate code => some (.evaluate code)
  | _ => none

/-! ## One step -/

namespace CoverageRun

theorem replay_spec (run : CoverageRun) (call : EngineCall) :
    ∃ tracker, ∃ refusals : List IdError, ∃ after,
      tracker.registry = (run.tracker.trackAll (call.received run.tracker.registry)).registry ∧
      after.events = refusals.map Event.refused ∧
      run.replay call.globals call.plan = (call.outcome run.tracker.registry, { run with tracker }, after) := by
  -- no violation is pending when the evaluation begins
  set cleared := run.tracker.takeViolation.2 with hcleared
  have hclear : cleared.registry = run.tracker.registry ∧ cleared.violation = none := ⟨rfl, rfl⟩
  obtain ⟨hending, htracker, refusals, hevents⟩ := call.plan.replay_spec call.globals cleared
  have hviolation := Tracker.trackAll_violation cleared (call.received run.tracker.registry)
  rw [hclear.1] at hending htracker hviolation
  rw [hclear.2, Option.none_or] at hviolation
  have hregistry := Tracker.registry_trackAll_eq hclear.1 (call.received run.tracker.registry)
  simp only [EngineCall.outcome, EngineCall.received, replay, ← hcleared, ← hending] at hviolation hregistry ⊢
  rw [← htracker] at hviolation hregistry
  generalize call.plan.replay call.globals cleared = result at *
  obtain ⟨ending, after⟩ := result
  cases ending with
  | ok value => exact ⟨after.tracker, refusals, after, hregistry, hevents, rfl⟩
  | error e =>
    refine ⟨after.tracker.takeViolation.2, refusals, after, hregistry, hevents, ?_⟩
    have hpending : after.tracker.violation = _ := hviolation
    simp only [Tracker.takeViolation, hpending]
    cases List.findSome? run.tracker.registry.violation? _ <;> rfl

theorem evaluateIn_spec (run : CoverageRun) (s : Session) (sandbox : Sandbox) (opening : List Event) (code : Text) :
    let call : EngineCall := { opening, globals := sandbox.globals, plan := s.takePlan.1 }
    ∃ tracker, ∃ refusals : List IdError, ∃ log,
      tracker.registry = (run.tracker.trackAll (call.received run.tracker.registry)).registry ∧
      (run.evaluateIn sandbox code).run s = ((call.outcome run.tracker.registry, { run with tracker }),
        { s.takePlan.2 with events := s.events ++ .evaluate code :: refusals.map .refused, log }) := by
  intro call
  obtain ⟨tracker, refusals, after, hregistry, hevents, hreplay⟩ := run.replay_spec call
  refine ⟨tracker, refusals, s.takePlan.2.log ++ after.log, hregistry, ?_⟩
  have hplan : s.takePlan.2.events = s.events := by rw [Session.takePlan_eq]
  have hrun : (run.evaluateIn sandbox code).run s =
      (((run.replay call.globals call.plan).1, (run.replay call.globals call.plan).2.1),
        { s.takePlan.2 with
          events := s.takePlan.2.events ++ .evaluate code :: (run.replay call.globals call.plan).2.2.events
          log := s.takePlan.2.log ++ (run.replay call.globals call.plan).2.2.log }) := rfl
  rw [hrun, hreplay, hevents, hplan]

/-- What a step does to a run and its session. -/
structure Effect (run : CoverageRun) (s : Session) (step : RunStep) (answer : Except Failure Value)
    (run' : CoverageRun) (s' : Session) : Prop where
  instrumented_eq : run'.instrumented = run.instrumented
  probeName_eq : run'.probeName = run.probeName
  executed_eq : run'.executed = (run.executed || (run.engineCall? s step).isSome)
  registry_eq : run'.tracker.registry = (run.tracker.trackAll (run.receivedBy s step)).registry
  events_eq : ∃ refusals : List IdError, s'.events =
    s.events ++ (run.engineCall? s step).elim [] (·.opening) ++ refusals.map .refused
  answer_eq : ∀ call, run.engineCall? s step = some call → answer = call.outcome run.tracker.registry

theorem executeIn_spec (run : CoverageRun) (s : Session) (sandbox : Sandbox) :
    let call := run.execution sandbox s
    ∃ tracker, ∃ refusals : List IdError, ∃ log,
      tracker.registry = (run.tracker.trackAll (call.received run.tracker.registry)).registry ∧
      (run.executeIn sandbox).run s =
        ((call.outcome run.tracker.registry,
          { run with tracker, sandbox := some { sandbox with globals := call.globals } }),
        { s.takePlan.2 with events := s.events ++ call.opening ++ refusals.map .refused, log }) := by
  intro call
  let inside : Sandbox := { sandbox with globals := call.globals }
  let started : CoverageRun := { run with sandbox := some inside }
  obtain ⟨tracker, refusals, log, hregistry, heval⟩ := started.evaluateIn_spec
    { s with
      events := s.events ++ [.expose run.probeName]
      log := s.log ++
        [⟨.debug, s!"Exposing host callable as global '{run.probeName}'"⟩,
         ⟨.debug, s!"Executing {started.units.length} instrumented units in '{inside.name}'"⟩] }
    inside call.opening run.instrumented.text
  refine ⟨tracker, refusals, log, ?_, ?_⟩
  · rw [hregistry, Session.takePlan_eq]
    simp only [started, call, inside, execution, Session.takePlan_eq]
  · refine heval.trans ?_
    simp only [started, call, inside, execution, Session.takePlan_eq, List.append_assoc, List.cons_append, List.nil_append]

theorem execute_of_executed {run : CoverageRun} (h : run.executed = true) (sandbox : Option Sandbox) (s : Session) :
    (run.execute sandbox).run s = ((.error .alreadyExecuted, run), s) := by
  simp [execute, h]
  rfl

theorem execute_of_chosen_error {run : CoverageRun} {sandbox : Option Sandbox} {s t : Session} {e : Failure}
    (h : run.executed = false) (hc : chosen sandbox s = (.error e, t)) :
    (run.execute sandbox).run s = ((.error e, run), t) := by
  cases sandbox with
  | some sandbox => cases hc
  | none =>
    have hfresh : Plugins.freshDefault.run.run s = (.error e, t) := hc
    simp only [execute, h, Bool.false_eq_true, if_false, StateT.run_bind, hfresh]
    rfl

theorem execute_of_chosen_ok {run : CoverageRun} {sandbox : Option Sandbox} {s t : Session} {b : Sandbox}
    (h : run.executed = false) (hc : chosen sandbox s = (.ok b, t)) :
    (run.execute sandbox).run s = (run.executeIn b).run t := by
  cases sandbox with
  | some sandbox =>
    cases hc
    simp [execute, h]
  | none =>
    have hfresh : Plugins.freshDefault.run.run s = (.ok b, t) := hc
    simp only [execute, h, Bool.false_eq_true, if_false, StateT.run_bind, hfresh]
    rfl

theorem step_effect (run : CoverageRun) (s : Session) (step : RunStep) :
    run.Effect s step ((run.step step).run s).1.1 ((run.step step).run s).1.2 ((run.step step).run s).2 := by
  cases step with
  | track argument =>
    have htrack : ((run.step (.track argument)).run s).1.2 = { run with tracker := (run.tracker.track argument).2 } ∧
        ((run.step (.track argument)).run s).2.events = s.events := by
      rcases h : run.tracker.track argument with ⟨⟨e⟩ | ⟨⟩, tracker⟩
      all_goals
        simp only [CoverageRun.step, h]
        exact ⟨rfl, rfl⟩
    obtain ⟨hrun, hevents⟩ := htrack
    rw [hrun]
    exact ⟨rfl, rfl, by simp [engineCall?, executed], rfl, ⟨[], by simp [hevents, engineCall?]⟩, by simp [engineCall?]⟩
  | evaluate code =>
    cases hs : run.sandbox with
    | none =>
      have hrun : (run.step (.evaluate code)).run s = ((.error .notExecuted, run), s) := by
        simp only [CoverageRun.step, CoverageRun.evaluate, hs]
        rfl
      rw [hrun]
      refine ⟨rfl, rfl, ?_, ?_, ⟨[], ?_⟩, ?_⟩ <;> simp [engineCall?, receivedBy, hs]
    | some sandbox =>
      obtain ⟨tracker, refusals, log, hregistry, heval⟩ := run.evaluateIn_spec s sandbox [.evaluate code] code
      have hrun : (run.step (.evaluate code)).run s = (run.evaluateIn sandbox code).run s := by
        simp only [CoverageRun.step, CoverageRun.evaluate, hs]
      rw [hrun, heval]
      refine ⟨rfl, rfl, ?_, ?_, ⟨refusals, ?_⟩, ?_⟩
      · simp [executed, hs]
      · simpa [receivedBy, engineCall?, hs] using hregistry
      · simp [engineCall?, hs]
      · simp [engineCall?, hs]
  | execute sandbox =>
    cases hexec : run.executed with
    | true =>
      have hrun : (run.step (.execute sandbox)).run s = ((.error .alreadyExecuted, run), s) :=
        execute_of_executed hexec sandbox s
      rw [hrun]
      refine ⟨rfl, rfl, ?_, ?_, ⟨[], ?_⟩, ?_⟩ <;> simp [engineCall?, receivedBy, hexec]
    | false =>
      have hevents : (chosen sandbox s).2.events = s.events := by
        cases sandbox with
        | some sandbox => rfl
        | none =>
          obtain ⟨log, new, hnew, hafter⟩ := Plugins.adds_freshDefault (P := fun _ => False) s
          have hnil : new = [] := List.eq_nil_iff_forall_not_mem.2 hnew
          simp only [chosen, hafter, hnil, List.append_nil]
      rcases hc : chosen sandbox s with ⟨e | b, t⟩
      · rw [hc] at hevents
        have hrun : (run.step (.execute sandbox)).run s = ((.error e, run), t) := execute_of_chosen_error hexec hc
        rw [hrun]
        refine ⟨rfl, rfl, ?_, ?_, ⟨[], ?_⟩, ?_⟩ <;> simp_all [engineCall?, receivedBy]
      · have ht : t.events = s.events := by rw [hc] at hevents; exact hevents
        obtain ⟨tracker, refusals, log, hregistry, heval⟩ := run.executeIn_spec t b
        have hcall : run.engineCall? s (.execute sandbox) = some (run.execution b t) := by
          simp [engineCall?, hexec, hc, execution]
        have hrun : (run.step (.execute sandbox)).run s = _ := (execute_of_chosen_ok hexec hc).trans heval
        rw [hrun]
        refine ⟨rfl, rfl, ?_, ?_, ⟨refusals, ?_⟩, ?_⟩
        · simp [hcall, executed]
        · simpa [receivedBy, hcall] using hregistry
        · simp [hcall, ht, execution]
        · simp [hcall]

/-! ## Histories -/

theorem after_cons (run : CoverageRun) (s : Session) (step : RunStep) (rest : List RunStep) :
    run.after s (step :: rest) = ((run.step step).run s).1.2.after ((run.step step).run s).2 rest := rfl

/-- After a history every unit has counted the calls that named it, and is otherwise as it was. -/
theorem units_after (run : CoverageRun) (s : Session) (history : List RunStep) (position : Nat) :
    (run.after s history).1.tracker.registry.units[position]? =
      (run.tracker.registry.units[position]?).map fun u =>
        { u with executionCount := u.executionCount + (run.received s history).countP (Value.namesUnit position) } := by
  induction history generalizing run s with
  | nil => simp [after, received]
  | cons step rest ih =>
    have heffect := run.step_effect s step
    rw [after_cons, ih, heffect.registry_eq, Tracker.trackAll_units, Option.map_map, received]
    congr 1
    funext u
    simp only [Function.comp, List.countP_append]
    congr 1
    omega

theorem engineCall?_of_executed {run : CoverageRun} (h : run.executed = true) (s : Session) (step : RunStep) :
    (run.engineCall? s step).elim [] (·.opening) = step.evaluation?.toList := by
  obtain ⟨sandbox, hs⟩ := Option.isSome_iff_exists.1 h
  cases step <;> simp [engineCall?, RunStep.evaluation?, hs, h]

theorem engineCall?_of_not_executed {run : CoverageRun} (h : run.executed = false) {s : Session} {step : RunStep}
    {call : EngineCall} (hcall : run.engineCall? s step = some call) :
    ∃ sandbox, step = .execute sandbox ∧ call.opening = [.expose run.probeName, .evaluate run.instrumented.text] := by
  cases step with
  | track argument => cases hcall
  | evaluate code =>
    have hs : run.sandbox = none := by simpa [executed] using h
    simp [engineCall?, hs] at hcall
  | execute sandbox =>
    simp only [engineCall?, h, Bool.false_eq_true, if_false] at hcall
    split at hcall
    · cases hcall; exact ⟨sandbox, rfl, rfl⟩
    · cases hcall

/-- The engine sees of a run that was executed the code of its evaluations. -/
theorem events_of_executed {run : CoverageRun} (h : run.executed = true) (s : Session) (history : List RunStep) :
    (run.after s history).1.executed = true ∧ ∃ new, (run.after s history).2.events = s.events ++ new ∧
      new.filter Event.isEngine = history.filterMap RunStep.evaluation? := by
  induction history generalizing run s with
  | nil => exact ⟨h, [], by simp [after], rfl⟩
  | cons step rest ih =>
    have heffect := run.step_effect s step
    obtain ⟨refusals, hevents⟩ := heffect.events_eq
    rw [engineCall?_of_executed h] at hevents
    have hstep : ((run.step step).run s).1.2.executed = true := by rw [heffect.executed_eq, h, Bool.true_or]
    obtain ⟨hexec, new, hnew, hfilter⟩ := ih hstep ((run.step step).run s).2
    refine ⟨hexec, step.evaluation?.toList ++ refusals.map .refused ++ new, ?_, ?_⟩
    · rw [after_cons, hnew, hevents]
      simp only [List.append_assoc]
    · rw [List.filter_append, List.filter_append, hfilter]
      cases step <;> simp [List.filterMap_cons, List.filter_cons, RunStep.evaluation?, Event.isEngine]

/-- The engine sees of a run nothing before it is executed, then the probe, the instrumented script, and the
code of its evaluations. -/
theorem events_of_not_executed {run : CoverageRun} (h : run.executed = false) (s : Session) (history : List RunStep) :
    ∃ new, (run.after s history).2.events = s.events ++ new ∧
      ((run.after s history).1.executed = false ∧ new.filter Event.isEngine = [] ∨
        (run.after s history).1.executed = true ∧ ∃ before sandbox rest,
          history = before ++ .execute sandbox :: rest ∧ (run.after s before).1.executed = false ∧
          new.filter Event.isEngine = .expose run.probeName :: .evaluate run.instrumented.text ::
            rest.filterMap RunStep.evaluation?) := by
  induction history generalizing run s with
  | nil => exact ⟨[], by simp [after], Or.inl ⟨h, rfl⟩⟩
  | cons step rest ih =>
    have heffect := run.step_effect s step
    obtain ⟨refusals, hevents⟩ := heffect.events_eq
    have hexec := heffect.executed_eq
    rw [h, Bool.false_or] at hexec
    cases hcall : run.engineCall? s step with
    | none =>
      rw [hcall] at hexec hevents
      obtain ⟨new, hnew, hcases⟩ := ih hexec ((run.step step).run s).2
      refine ⟨refusals.map .refused ++ new, ?_, ?_⟩
      · rw [after_cons, hnew, hevents]
        simp
      · have hfilter : (refusals.map Event.refused ++ new).filter Event.isEngine = new.filter Event.isEngine := by
          simp [Event.isEngine]
        rw [hfilter, after_cons]
        rcases hcases with hnone | ⟨hsome, before, sandbox, rest', rfl, hbefore, hseen⟩
        · exact Or.inl hnone
        · refine Or.inr ⟨hsome, step :: before, sandbox, rest', rfl, hbefore, ?_⟩
          rw [hseen, heffect.probeName_eq, heffect.instrumented_eq]
    | some call =>
      rw [hcall] at hexec hevents
      -- only an execution makes a call here
      obtain ⟨sandbox, rfl, hopening⟩ := engineCall?_of_not_executed h hcall
      obtain ⟨hsome, new, hnew, hfilter⟩ := events_of_executed hexec ((run.step (.execute sandbox)).run s).2 rest
      refine ⟨call.opening ++ refusals.map .refused ++ new, ?_, Or.inr ⟨hsome, [], sandbox, rest, rfl, h, ?_⟩⟩
      · rw [after_cons, hnew, hevents]
        simp
      · rw [List.filter_append, List.filter_append, hfilter, hopening]
        simp [List.filter_cons, Event.isEngine]

/-- What holds of a run after a history that began with no counts: the units have their positions as ids and have
counted the calls that named them, the next step that reaches the engine ends as its own evaluation says, with the
unknown-id errors of the calls that name no unit and can be written, and what the engine has seen of the run. -/
structure SoundAfter (run : CoverageRun) (s : Session) (history : List RunStep) : Prop where
  ids : ∀ (position : Nat) (u : CoverableUnit), run.tracker.registry.units[position]? = some u → u.id = position
  counts : ∀ position : Nat, (run.after s history).1.tracker.registry.units[position]? =
    (run.tracker.registry.units[position]?).map fun u =>
      { u with executionCount := (run.received s history).countP (Value.namesUnit position) }
  next : ∀ step call, (run.after s history).1.engineCall? (run.after s history).2 step = some call →
    (((run.after s history).1.step step).run (run.after s history).2).1.1 =
      call.outcome (run.after s history).1.tracker.registry
  violations : ∀ argument e, (run.after s history).1.tracker.registry.violation? argument = some e ↔
    (∀ position < (run.after s history).1.tracker.registry.size, argument.namesUnit position = false) ∧
      (Tracker.idOf argument).isWritable = true ∧
      e = ⟨(Tracker.idOf argument).literal, (run.after s history).1.tracker.registry.size⟩
  seen : ∃ new, (run.after s history).2.events = s.events ++ new ∧
    ((run.after s history).1.executed = false ∧ new.filter Event.isEngine = [] ∨
      (run.after s history).1.executed = true ∧ ∃ before sandbox rest,
        history = before ++ .execute sandbox :: rest ∧ (run.after s before).1.executed = false ∧
        new.filter Event.isEngine = .expose run.probeName :: .evaluate run.instrumented.text ::
          rest.filterMap RunStep.evaluation?)

theorem ofTree_eq_ok {source : Text} {name : String} {root : Node} {run : CoverageRun}
    (h : ofTree source name root = .ok run) :
    run.tracker = { registry := (Registry.discover { source } root).2 } ∧ run.executed = false := by
  obtain ⟨script, -, rfl⟩ := exists_of_ofTree_ok h
  exact ⟨rfl, rfl⟩

/-- A script whose run begins with a violation from outside, and whose plan hides one and throws. -/
def ternaryHistory : List RunStep :=
  [.track (.int 7), .execute (some { name := "quickjs" }), .evaluate "f()".toList]

def ternaryPlans : List Plan :=
  [{ calls := [{ name := Probe.defaultName, argument := .int 2, times := 3 },
      { name := Probe.defaultName, argument := .int 9, caught := true }], throws := some "Error: stop" }]

end CoverageRun

end ScriptCoverage
