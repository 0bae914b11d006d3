/-!
# Exit statuses

The status with which an invocation ends tells scripts what happened.

Specification: section 11, the exit codes.
-/

namespace ScriptCoverage

inductive ExitStatus where
  | success
  /-- The coverage is below the threshold. -/
  | belowThreshold
  /-- The script cannot be parsed or failed, or a command failed. -/
  | programError
  /-- The settings or the arguments of a command cannot be used. -/
  | invalidUsage
  | retrievalFailure
  | missingDependency
  /-- The arguments cannot be read. -/
  | misuse
  deriving DecidableEq, Repr

def ExitStatus.code : ExitStatus → Nat
  | success => 0
  | belowThreshold => 1
  | programError => 2
  | invalidUsage => 3
  | retrievalFailure => 4
  | missingDependency => 5
  | misuse => 2

end ScriptCoverage
