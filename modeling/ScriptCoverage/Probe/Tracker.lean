import ScriptCoverage.Unit.Registry

/-!
# The tracker

The instrumented program calls back into the tracker, which counts executions in the registry of its
run. A call that names no unit is a violation: the script engine reports it in its own words, so the
tracker keeps the first one for the run to ask about. It keeps what the registry worded: a call whose id cannot be
written fails as well, but leaves no violation.

Specification: section 4.3, the execution bridge.
-/

namespace ScriptCoverage

/-- The registry that probes count in, and the first violation since the last one was taken. -/
structure Tracker where
  registry : Registry
  violation : Option UnknownUnit := none

namespace Tracker

/-- The id that a probe argument stands for. Script engines may hand over an integer as a number with
a fraction of zero. -/
def idOf : Value → Value
  | .float x => match x.toInt? with
    | some i => .int i
    | none => .float x
  | v => v

/-- Counts one execution of the unit that a probe argument names. An unknown id counts nothing and is
refused, and the refusal becomes the pending violation if there is none. The result has no value, so a probe in
front of an expression never replaces it. -/
def track (t : Tracker) (argument : Value) : Except IdError Unit × Tracker :=
  let id := idOf argument
  match t.registry.position? id with
  | some position => (.ok (), { t with registry := t.registry.count position })
  | none =>
    let refusal := t.registry.refusal id
    (.error refusal, { t with violation := t.violation.or refusal.unknownUnit? })

/-- The pending violation, which is pending no longer. -/
def takeViolation (t : Tracker) : Option UnknownUnit × Tracker :=
  (t.violation, { t with violation := none })

end Tracker

end ScriptCoverage
