import ScriptCoverage.Run.Sandbox
import ScriptCoverage.Unit.Discovery
import ScriptCoverage.Tree.Convert

/-!
# Coverage runs

A run takes one script through discovery, instrumentation and execution. It owns its registry, so ids
start at zero in every run. A run executes once; after that further code may be evaluated in its
sandbox, and the functions that the script defined keep counting. What was counted before an error
stays counted.

Specification: sections 3 and 6, `CoverageRun`.
-/

namespace ScriptCoverage

/-- One instrumented script, and what is known of its execution. -/
structure CoverageRun where
  instrumented : Instrumented
  probeName : String := Probe.defaultName
  tracker : Tracker
  /-- The sandbox that the script executed in. -/
  sandbox : Option Sandbox := none

namespace CoverageRun

def source (run : CoverageRun) : Text := run.tracker.registry.source

/-- The units in source order, with their counts. -/
def units (run : CoverageRun) : List CoverableUnit := Registry.sorted run.tracker.registry.units

def executed (run : CoverageRun) : Bool := run.sandbox.isSome

def summary (run : CoverageRun) : Summary := .ofUnits run.units

/-- The run of a script with a parser's tree. -/
def ofTree (source : Text) (probeName : String) (root : Node) : Except InstrumentError CoverageRun := do
  let (units, registry) := Registry.discover { source } root
  let instrumented ← instrument source units probeName
  return { instrumented, probeName, tracker := { registry } }

/-- The number of characters in all probes. -/
def probeLength (run : CoverageRun) : Nat :=
  (run.instrumented.insertions.flatMap (·.probe)).length

/-- An evaluation in the run's sandbox, as the engine's plan has it. A pending violation is dropped
first, because it belongs to earlier code; an evaluation that fails with a violation pending fails with
the violation. -/
def replay (run : CoverageRun) (globals : List String) (plan : Plan) :
    Except Failure Value × CoverageRun × Replay :=
  let (outcome, replay) := plan.replay globals run.tracker.takeViolation.2
  match outcome with
  | .ok value => (.ok value, { run with tracker := replay.tracker }, replay)
  | .error e =>
    let (violation, tracker) := replay.tracker.takeViolation
    (.error ((violation.map Failure.unknownUnit).getD (.engine e)), { run with tracker }, replay)

/-- Evaluates code in a sandbox. The counts are part of the result even if the evaluation fails. -/
def evaluateIn (run : CoverageRun) (sandbox : Sandbox) (code : Text) :
    StateM Session (Except Failure Value × CoverageRun) :=
  modifyGet fun s =>
    let (plan, s) := s.takePlan
    let (outcome, run, replay) := run.replay sandbox.globals plan
    ((outcome, run),
      { s with events := s.events ++ .evaluate code :: replay.events, log := s.log ++ replay.log })

/-- Executes the instrumented script in a sandbox of its own, in which the probe is defined. -/
def executeIn (run : CoverageRun) (sandbox : Sandbox) :
    StateM Session (Except Failure Value × CoverageRun) := do
  let sandbox := { sandbox with globals := run.probeName :: sandbox.globals }
  let run := { run with sandbox := some sandbox }
  modify fun s => { s with
    events := s.events ++ [.expose run.probeName]
    log := s.log ++
      [⟨.debug, s!"Exposing host callable as global '{run.probeName}'"⟩,
       ⟨.debug, s!"Executing {run.units.length} instrumented units in '{sandbox.name}'"⟩] }
  run.evaluateIn sandbox run.instrumented.text

/-- Executes the run, once: in the sandbox that is given, or else in a fresh default one. -/
def execute (run : CoverageRun) (sandbox : Option Sandbox) :
    StateM Session (Except Failure Value × CoverageRun) := do
  if run.executed then return (.error .alreadyExecuted, run)
  match sandbox with
  | some sandbox => run.executeIn sandbox
  | none => match ← Plugins.freshDefault.run with
    | .ok sandbox => run.executeIn sandbox
    | .error e => return (.error e, run)

/-- Evaluates further code in the sandbox of the run. -/
def evaluate (run : CoverageRun) (code : Text) : StateM Session (Except Failure Value × CoverageRun) :=
  match run.sandbox with
  | some sandbox => run.evaluateIn sandbox code
  | none => return (.error .notExecuted, run)

end CoverageRun

/-- Parses and instruments a script without executing it. -/
def instrumentSource (source : Text) (probeName : String) : Action CoverageRun := do
  let tree ← match (← get).parser with
    | none => throw (.missing .parser)
    | some parse => Action.ofExcept ((parse source).mapError Failure.unparsable)
  let root ← match ← Action.ofExcept ((Tree.ofValue tree).mapError Failure.conversion) with
    | .object root => pure root
    | _ => throw (.fault .missingAttribute)
  let rootType := root.typeName.getD "None"
  Action.log .debug s!"Parsed {source.length} characters, root type {rootType}"
  let found := (Registry.discover { source } root).1.length
  Action.log .debug s!"Discovered {found} coverable units"
  let run ← Action.ofExcept ((CoverageRun.ofTree source probeName root).mapError Failure.instrument)
  Action.log .debug
    s!"Inserted {run.instrumented.insertions.length} probes ({run.probeLength} characters)"
  return run

/-- Instruments a script and executes it. A failed execution leaves no run. -/
def instrumentAndRun (source : Text) (sandbox : Option Sandbox) (probeName : String) :
    Action CoverageRun := do
  let run ← instrumentSource source probeName
  let (outcome, run) ← ExceptT.lift (run.execute sandbox)
  let _ ← Action.ofExcept outcome
  return run

/-- Retrieves a script from an address. -/
def fetchSource (address : String) (timeout : Value) : Action Text := do
  Action.log .info s!"Fetching script from {address}"
  let url ← Action.ofExcept ((Address.resolve address).mapError Failure.address)
  Action.emit (.opened url s!"tailwindcov/{Session.programVersion}" timeout)
  Action.ofExcept ((retrieve address ((← get).network url)).mapError Failure.ofFetch)

/-- Retrieves a script, instruments it and executes it. -/
def fetchAndRun (address : String) (timeout : Value) (sandbox : Option Sandbox) (probeName : String) :
    Action CoverageRun := do
  instrumentAndRun (← fetchSource address timeout) sandbox probeName

end ScriptCoverage
