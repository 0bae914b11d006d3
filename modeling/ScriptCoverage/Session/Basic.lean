import ScriptCoverage.Config.Load

/-!
# Sessions

A session is everything that an invocation finds and leaves behind: the parser, the engine, the network
and the installed packages as they answer, the files, the log and the standard output. An action changes
a session and may fail; what it did before a failure stays done.

Specification: section 1, the external collaborators.
-/

namespace ScriptCoverage

/-- What an invocation finds, and what it has left behind so far. -/
structure Session extends Surroundings where
  /-- The parser, if it is installed. It may refuse a script, in its own words. -/
  parser : Option (Text → Except String Value) := none
  engineInstalled : Bool := true
  entryPoints : EntryPoints := {}
  /-- What opening an address leads to. -/
  network : String → Except OpeningError Response := fun _ => .ok {}
  /-- The version of the installed package, if it is installed as one. -/
  packageVersion : Option String := none
  /-- What the evaluations to come do, in order. -/
  plans : List Plan := []
  events : List Event := []
  log : List LogEntry := []
  output : Text := []

/-- A computation that changes a session and may fail. -/
abbrev Action := ExceptT Failure (StateM Session)

namespace Session

/-- The version of the program. -/
def programVersion : String := "0.3.0"

/-- The version that is shown to the user. -/
def version (s : Session) : String := s.packageVersion.getD programVersion

/-- What the next evaluation does. An engine without further plans does nothing. -/
def takePlan (s : Session) : Plan × Session :=
  match s.plans with
  | plan :: rest => (plan, { s with plans := rest })
  | [] => ({}, s)

/-- The log from a level on. -/
def logFrom (s : Session) (level : LogLevel) : List LogEntry :=
  s.log.filter fun entry => level.rank ≤ entry.level.rank

end Session

namespace Action

variable {α : Type}

def log (level : LogLevel) (message : String) : Action Unit :=
  modify fun s => { s with log := s.log ++ [⟨level, message⟩] }

def emit (event : Event) : Action Unit :=
  modify fun s => { s with events := s.events ++ [event] }

def print (text : Text) : Action Unit :=
  modify fun s => { s with output := s.output ++ text }

def printLine (line : String) : Action Unit := print (line.toList ++ ['\n'])

/-- A result that is known already. -/
def ofExcept (result : Except Failure α) : Action α := ExceptT.mk (pure result)

/-- A logged result, whose log goes to the session's. -/
def ofLogged (m : Logged α) : Action α := do
  modify fun s => { s with log := s.log ++ m.log }
  return m.result

/-- Loading as a step of a session. -/
def ofLoading (m : Loading α) : Action α := do ofExcept (← ofLogged m.run)

/-- The outcome of an action, as a value. -/
def attempt (action : Action α) : Action (Except Failure α) := ExceptT.lift action.run

/-- The bytes of a file. -/
def readBytes (path : Path) : Action (List UInt8) := do
  let s ← get
  ofExcept (Failure.ofOpening path (s.files.read s.directory path))

/-- The text of a file. -/
def readText (path : Path) : Action Text := do
  ofExcept ((ScriptCoverage.readText (← readBytes path)).mapError Failure.undecodable)

/-- Makes a file of a text. -/
def writeText (path : Path) (text : Text) : Action Unit := do
  let s ← get
  let files ← ofExcept (Failure.ofOpening path (s.files.write s.directory path (encodeUtf8 text)))
  set { s with files }

end Action

end ScriptCoverage
