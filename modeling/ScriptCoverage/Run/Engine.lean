import ScriptCoverage.Probe.Tracker
import ScriptCoverage.Session.Log

/-!
# The script engine

The engine that executes scripts is outside. What one evaluation does, as far as the host can tell, is a
plan: calls of global functions, each handled by the host, and then an error or a completion value.
Replaying a plan passes its calls to the tracker; what the tracker counted before an error stays counted.

Specification: section 1, the execution sandbox.
-/

namespace ScriptCoverage

/-- Calls of a global function with one argument, some number of times in a row. -/
structure HostCall where
  name : String
  argument : Value
  times : Nat := 1
  /-- Whether the script catches the error of a refused call. -/
  caught : Bool := false

/-- What one evaluation does. -/
structure Plan where
  calls : List HostCall := []
  throws : Option String := none
  result : Value := .null

/-- An error that ends an evaluation. -/
inductive EngineError where
  | thrown (text : String)
  | undefinedGlobal (name : String)
  | hostCallFailed
  deriving DecidableEq, Repr

def EngineError.message : EngineError → String
  | thrown text => text
  | undefinedGlobal name => s!"ReferenceError: '{name}' is not defined"
  | hostCallFailed => "host call failed"

/-- What is logged of a refused call. -/
def IdError.logged (e : IdError) : List LogEntry :=
  e.unknownUnit?.toList.map fun cause => ⟨.error, cause.message⟩

/-- What the outside world sees of a session, in order. -/
inductive Event where
  | memoryLimit (limit : Value)
  | expose (name : String)
  | evaluate (code : Text)
  | refused (cause : IdError)
  | opened (url : String) (agent : String) (timeout : Value)

/-- The state of an evaluation: the tracker, the events and the log so far. -/
structure Replay where
  tracker : Tracker
  events : List Event := []
  log : List LogEntry := []

namespace Replay

/-- One call of the probe. Its refusal is logged if it could be worded. A refused call ends the evaluation, unless
the script catches the error. -/
def call (r : Replay) (argument : Value) (caught : Bool) : Option EngineError × Replay :=
  match r.tracker.track argument with
  | (.ok (), tracker) => (none, { r with tracker })
  | (.error e, tracker) =>
    (if caught then none else some .hostCallFailed,
      { tracker, events := r.events ++ [.refused e], log := r.log ++ e.logged })

/-- The same call a number of times; it ends with the first error. -/
def repeatCall (r : Replay) (argument : Value) (caught : Bool) : Nat → Option EngineError × Replay
  | 0 => (none, r)
  | times + 1 =>
    match r.call argument caught with
    | (none, r) => r.repeatCall argument caught times
    | (some e, r) => (some e, r)

/-- Calls of global functions, of which the host has defined `globals`. -/
def calls (globals : List String) (r : Replay) : List HostCall → Option EngineError × Replay
  | [] => (none, r)
  | c :: rest =>
    if c.times = 0 ∨ c.name ∈ globals then
      match r.repeatCall c.argument c.caught c.times with
      | (none, r) => calls globals r rest
      | (some e, r) => (some e, r)
    else (some (.undefinedGlobal c.name), r)

end Replay

/-- What an evaluation with the given globals does to the tracker, and how it ends. -/
def Plan.replay (plan : Plan) (globals : List String) (tracker : Tracker) :
    Except EngineError Value × Replay :=
  match Replay.calls globals { tracker } plan.calls with
  | (some e, r) => (.error e, r)
  | (none, r) => match plan.throws with
    | some text => (.error (.thrown text), r)
    | none => (.ok plan.result, r)

end ScriptCoverage
