/-!
# Log entries

Diagnostics are values: a computation that reports something along the way returns its log entries in
order beside its result, and the caller decides from which level on they are shown.

Specification: section 8, logging.
-/

namespace ScriptCoverage

inductive LogLevel where
  | debug
  | info
  | warning
  | error
  deriving DecidableEq, Repr

namespace LogLevel

/-- The weight of a level; entries below the chosen weight are not shown. -/
def rank : LogLevel → Nat
  | debug => 10
  | info => 20
  | warning => 30
  | error => 40

def name : LogLevel → String
  | debug => "DEBUG"
  | info => "INFO"
  | warning => "WARNING"
  | error => "ERROR"

/-- The level that verbosity flags choose: quiet wins over debug, debug over verbose. -/
def ofFlags (debug verbose quiet : Bool) : LogLevel :=
  if quiet then .error else if debug then .debug else if verbose then .info else .warning

end LogLevel

structure LogEntry where
  level : LogLevel
  message : String
  deriving DecidableEq, Repr

/-- A result and the entries logged on the way to it. -/
structure Logged (α : Type) where
  result : α
  log : List LogEntry := []

namespace Logged

variable {α β : Type}

instance : Monad Logged where
  pure a := ⟨a, []⟩
  bind m f := ⟨(f m.result).result, m.log ++ (f m.result).log⟩

/-- Logs one entry. -/
def tell (level : LogLevel) (message : String) : Logged Unit := ⟨(), [⟨level, message⟩]⟩

@[simp] theorem result_pure (a : α) : (pure a : Logged α).result = a := rfl

@[simp] theorem log_pure (a : α) : (pure a : Logged α).log = [] := rfl

@[simp] theorem result_bind (m : Logged α) (f : α → Logged β) :
    (m >>= f).result = (f m.result).result := rfl

@[simp] theorem log_bind (m : Logged α) (f : α → Logged β) :
    (m >>= f).log = m.log ++ (f m.result).log := rfl

@[simp] theorem result_tell (level : LogLevel) (message : String) :
    (tell level message).result = () := rfl

@[simp] theorem log_tell (level : LogLevel) (message : String) :
    (tell level message).log = [⟨level, message⟩] := rfl

end Logged

end ScriptCoverage
