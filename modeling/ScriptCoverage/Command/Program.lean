import ScriptCoverage.Command.Cover
import ScriptCoverage.Command.Status

/-!
# The program

An invocation reads its arguments, loads the settings, and carries out its command. A failure that a
command does not deal with itself ends the command with a message. Settings that are refused end the
invocation; a settings file that cannot be read at all is a failure of the invocation.

Specification: section 11, global flags and subcommands.
-/

namespace ScriptCoverage

/-- How an invocation ends: with a status, or with a failure that nothing dealt with. -/
structure Ending where
  outcome : Except Failure ExitStatus
  /-- The level from which on the log is shown. -/
  level : LogLevel := .warning
  /-- The message on arguments that cannot be read. -/
  misuse : Option String := none

namespace Program

/-- Carries out a command. -/
def perform (command : Command) (options : CommandOptions) (config : Config) : Action ExitStatus :=
  match command with
  | .run script => Cover.report (Cover.fileSource script) config options.output
  | .fetch address => Cover.report (Cover.addressSource address config.timeout) config options.output
  | .instrument script => Cover.writeInstrumented script config options.output
  | .status => Status.print config

/-- Carries out a command, whose failure is logged. -/
def attempt (command : Command) (options : CommandOptions) (config : Config) : Action ExitStatus := do
  match ← Action.attempt (perform command options config) with
  | .ok status => return status
  | .error e =>
    Action.log .error s!"{command.name} failed: {e.message}"
    return .programError

/-- The settings of a command in the working directory. -/
def settings (options : CommandOptions) : Action Config := do
  let s ← get
  Action.ofLoading
    (Config.load s.toSurroundings s.directory options.config.value?
      (.mapping options.overrides.toMapping))

/-- Carries out an invocation. -/
def invoke (invocation : Invocation) : Action ExitStatus := do
  if invocation.flags.version then
    Action.printLine (← get).version
    return .success
  match invocation.command with
  | none =>
    Action.print Help.program.toList
    return .success
  | some (command, options) =>
    match ← Action.attempt (settings options) with
    | .ok config => attempt command options config
    | .error (.config e) =>
      Action.log .error e.message
      return .invalidUsage
    | .error e => throw e

/-- Runs the program with its arguments. -/
def main (words : List String) : StateM Session Ending :=
  match Invocation.ofArguments words with
  | .error (.help text) => do
    modify fun s => { s with output := s.output ++ text.toList }
    return { outcome := .ok .success }
  | .error (.misuse program message) =>
    return { outcome := .ok .misuse, misuse := some s!"{program}: error: {message}" }
  | .ok invocation => do
    return { outcome := ← (invoke invocation).run, level := invocation.flags.level }

end Program

end ScriptCoverage
