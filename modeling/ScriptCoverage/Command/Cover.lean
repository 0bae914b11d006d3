import ScriptCoverage.Command.Arguments
import ScriptCoverage.Command.Exit
import ScriptCoverage.Run.Coverage

/-!
# Covering a script

The commands `run` and `fetch` obtain a script, instrument it, execute it and report its coverage. A
script that fails by itself is reported too; a probe that names no unit is a defect of the program, and
then there is no report. The last step is the gate: a coverage below the threshold is a failure.

Specification: section 11, `run`, `fetch` and `instrument`.
-/

namespace ScriptCoverage.Cover

/-- What the two commands differ in: how the script is called, and how it is obtained. -/
structure ScriptSource where
  label : String
  load : Action Text

/-- The source that is a file. -/
def fileSource (path : Path) : ScriptSource := ⟨path.toString, Action.readText path⟩

/-- The source that is an address. -/
def addressSource (address : String) (timeout : Binary64) : ScriptSource :=
  ⟨address, fetchSource address (.float timeout)⟩

/-- Ends a command with a status, for a reason that is logged. -/
def refuse {α : Type} (status : ExitStatus) (message : String) : ExceptT ExitStatus Action α := do
  Action.log .error message
  throw status

/-- A setting as messages show it. -/
def shown (setting : Value) : ExceptT ExitStatus Action String :=
  ExceptT.lift (Action.ofExcept (setting.checkedDisplay.mapError .conversion))

/-- Obtains the script of a source. -/
def obtain (script : ScriptSource) : ExceptT ExitStatus Action Text := do
  match ← Action.attempt script.load with
  | .ok text => return text
  | .error (.retrieval e) => refuse .retrievalFailure e.message
  | .error (.file e) => refuse .invalidUsage s!"Cannot read script: {e.message}"
  | .error e => throwThe Failure e

/-- Instruments a script. -/
def prepare (label : String) (text : Text) (probeName : String) :
    ExceptT ExitStatus Action CoverageRun := do
  match ← Action.attempt (instrumentSource text probeName) with
  | .ok run => return run
  | .error (.missing dependency) => refuse .missingDependency dependency.message
  | .error e => refuse .programError s!"Failed to parse {label}: {e.message}"

/-- Makes the sandbox that the settings choose. -/
def chooseSandbox (config : Config) : ExceptT ExitStatus Action Sandbox := do
  match ← Action.attempt (Plugins.sandbox? config.sandbox config.options) with
  | .ok (some made) => return made
  | .ok none => refuse .invalidUsage s!"Unknown sandbox '{← shown config.sandbox}'"
  | .error (.missing dependency) => refuse .missingDependency dependency.message
  | .error e => throwThe Failure e

/-- Executes a script. The status says whether the script itself failed. -/
def perform (label : String) (run : CoverageRun) (sandbox : Sandbox) :
    Action (ExitStatus × CoverageRun) := do
  match ← run.execute (some sandbox) with
  | (.ok _, run) => return (.success, run)
  | (.error (.engine e), run) =>
    Action.log .error s!"{label} raised during execution: {e.message}"
    return (.programError, run)
  | (.error e, _) => throw e

/-- Writes the report of a run to a file or to the standard output. -/
def writeReport (format : ReportFormat) (run : CoverageRun) (output : Choice Path) : Action Unit := do
  let text := Report.write format run.source run.units
  match output with
  | .absent => Action.print text
  | .bare => throw (.fault .wrongType)
  | .value path =>
    Action.writeText path text
    Action.log .info s!"Report written to {path}"

/-- Holds a summary against the threshold. Only a script that did not fail is held against it. -/
def gate (status : ExitStatus) (summary : Summary) (threshold : Binary64) : Action ExitStatus := do
  if status = .success ∧ !summary.passed threshold then
    Action.log .error s!"Coverage {summary.percentText}% is below the threshold of {threshold.fixed 1}%"
    return .belowThreshold
  return status

/-- Obtains, instruments, executes and reports a script. -/
def coverSource (script : ScriptSource) (config : Config) (output : Choice Path) :
    ExceptT ExitStatus Action ExitStatus := do
  let some format ← Plugins.reporter? config.format
    | refuse .invalidUsage s!"Unknown output format '{← shown config.format}'"
  let text ← obtain script
  let run ← prepare script.label text config.probeName
  let sandbox ← chooseSandbox config
  let (status, run) ← perform script.label run sandbox
  writeReport format run output
  let summary := run.summary
  Action.log .info s!"{script.label}: {summary.executed}/{summary.total} units executed"
  gate status summary config.threshold

/-- The status of an action that may have ended early. -/
def settle (action : ExceptT ExitStatus Action ExitStatus) : Action ExitStatus := do
  match ← action.run with
  | .ok status => return status
  | .error status => return status

/-- The commands `run` and `fetch`. -/
def report (script : ScriptSource) (config : Config) (output : Choice Path) : Action ExitStatus :=
  settle (coverSource script config output)

/-- The command `instrument`: the instrumented script itself, which always ends in a line feed on the
standard output. -/
def writeInstrumented (path : Path) (config : Config) (output : Choice Path) : Action ExitStatus :=
  settle do
    let text ← match ← Action.attempt (Action.readText path) with
      | .ok text => pure text
      | .error (.file e) => refuse .invalidUsage s!"Cannot read script: {e.message}"
      | .error e => throwThe Failure e
    let run ← prepare path.toString text config.probeName
    Action.log .info s!"{path}: {run.units.length} probes inserted"
    let script := run.instrumented.text
    match output with
    | .absent => Action.print (if script.getLast? = some '\n' then script else script ++ ['\n'])
    | .bare => throwThe Failure (.fault .wrongType)
    | .value output => Action.writeText output script
    return .success

end ScriptCoverage.Cover
