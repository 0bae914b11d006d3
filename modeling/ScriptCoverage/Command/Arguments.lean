import ScriptCoverage.Command.Grammar
import ScriptCoverage.Command.Help
import ScriptCoverage.Number.Numeral
import ScriptCoverage.Report.Basic
import ScriptCoverage.Session.Log
import ScriptCoverage.Session.Path
import ScriptCoverage.Value.Basic

/-!
# Arguments

The program has options of its own and four commands, each with one operand or none and with options.
Reading the arguments gives an `Invocation`. Options that are given override the settings of the same
meaning; options that are not given leave them alone.

Specification: section 11, the subcommands and their options.
-/

namespace ScriptCoverage

/-- The options of the program itself. -/
structure ProgramFlags where
  version : Bool := false
  debug : Bool := false
  verbose : Bool := false
  quiet : Bool := false
  deriving DecidableEq, Repr

/-- The level from which on the log is shown. -/
def ProgramFlags.level (flags : ProgramFlags) : LogLevel :=
  .ofFlags flags.debug flags.verbose flags.quiet

/-- What a command line says about an option: nothing, that it is given without a value, or its value. -/
inductive Choice (α : Type) where
  | absent
  | bare
  | value (a : α)
  deriving DecidableEq, Repr

namespace Choice

variable {α : Type}

/-- The value of an option that is given one. -/
def value? : Choice α → Option α
  | value a => some a
  | _ => none

/-- An option that is given, as a setting. Without a value it is an empty list. -/
def setting (encode : α → Value) : Choice α → Option Value
  | absent => none
  | bare => some (.list [])
  | value a => some (encode a)

end Choice

/-- The options of a command. -/
structure CommandOptions where
  format : Choice ReportFormat := .absent
  output : Choice Path := .absent
  failUnder : Choice Binary64 := .absent
  sandbox : Choice String := .absent
  probeName : Choice String := .absent
  config : Choice Path := .absent
  timeout : Choice Binary64 := .absent
  deriving DecidableEq

/-- What the program is to do. -/
inductive Command where
  | run (script : Path)
  | fetch (address : String)
  | instrument (script : Path)
  | status
  deriving DecidableEq

def Command.name : Command → String
  | run _ => "run"
  | fetch _ => "fetch"
  | instrument _ => "instrument"
  | status => "status"

/-- The arguments of one invocation. Without a command there is nothing to do but to explain the program. -/
structure Invocation where
  flags : ProgramFlags := {}
  command : Option (Command × CommandOptions) := none
  deriving DecidableEq

namespace Arguments

/-- The message on a choice that is not among those offered. -/
def invalidChoice (text : String) (choices : List String) : String :=
  s!"invalid choice: {Quoted.text text} (choose from " ++ ", ".intercalate (choices.map Quoted.text) ++ ")"

def readFormat (text : String) : Except String ReportFormat :=
  let formats := [ReportFormat.text, .html, .json, .summary]
  match formats.find? (·.name == text) with
  | some format => .ok format
  | none => .error (invalidChoice text (formats.map ReportFormat.name))

def readNumber (text : String) : Except String Binary64 :=
  match Numeral.readFloat text with
  | some x => .ok x
  | none => .error s!"invalid float value: {Quoted.text text}"

/-- The state of reading a command: its operand and its options so far. -/
structure CommandState where
  operand : String := ""
  options : CommandOptions := {}

/-- What an option with a value says, given how its value is read. -/
def readChoice {α : Type} (read : String → Except String α) : Option String → Except String (Choice α)
  | none => .ok .bare
  | some text => .value <$> read text

/-- An option with a value, which is read and then kept. -/
def valued {α : Type} (names : List String) (read : String → Except String α)
    (keep : Choice α → CommandOptions → CommandOptions) : OptionSpec CommandState :=
  ⟨names, .value fun text s => do return { s with options := keep (← readChoice read text) s.options }⟩

def readPath (text : String) : Except String Path := .ok (.ofString text)

def helpOption {σ : Type} : OptionSpec σ := ⟨["-h", "--help"], .help⟩

def formatOption := valued ["--format"] readFormat fun v o => { o with format := v }

def outputOption := valued ["--output", "-o"] readPath fun v o => { o with output := v }

def failUnderOption := valued ["--fail-under"] readNumber fun v o => { o with failUnder := v }

def sandboxOption := valued ["--sandbox"] (.ok ·) fun v o => { o with sandbox := v }

def probeNameOption := valued ["--probe-name"] (.ok ·) fun v o => { o with probeName := v }

def configOption := valued ["--config"] readPath fun v o => { o with config := v }

def timeoutOption := valued ["--timeout"] readNumber fun v o => { o with timeout := v }

/-- The options of the commands that write a report. -/
def reportOptions : List (OptionSpec CommandState) :=
  [formatOption, outputOption, failUnderOption, sandboxOption, probeNameOption, configOption]

/-- The grammar of a command, given the name of its operand if it has one. -/
def commandGrammar (name help : String) (operand : Option String)
    (options : List (OptionSpec CommandState)) : Grammar CommandState where
  program := s!"tailwindcov {name}"
  help := help
  options := helpOption :: options
  operand := operand
  apply := fun text _ s => .ok { s with operand := text }

/-- The commands by name: the grammar of each, and the command that an operand makes. -/
def commands : List (String × Grammar CommandState × (String → Command)) :=
  [("run", commandGrammar "run" Help.run (some "path") reportOptions, fun s => .run (.ofString s)),
   ("fetch", commandGrammar "fetch" Help.fetch (some "url") (timeoutOption :: reportOptions), .fetch),
   ("instrument", commandGrammar "instrument" Help.instrument (some "path")
      [outputOption, probeNameOption, configOption], fun s => .instrument (.ofString s)),
   ("status", commandGrammar "status" Help.status none [configOption], fun _ => .status)]

/-- The state of reading the program's arguments, with the words that its command made nothing of. -/
structure ProgramState where
  invocation : Invocation := {}
  extras : List String := []

def programName : String := "tailwindcov"

/-- Reads the words behind the name of a command. -/
def readCommand (name : String) (words : List String) (s : ProgramState) :
    Except UsageStop ProgramState :=
  match commands.lookup name with
  | none => .error (.misuse programName
      ("argument command: " ++ invalidChoice name (commands.map (·.1))))
  | some (grammar, make) => do
    let (state, extras) ← grammar.read {} words
    return { invocation := { s.invocation with command := some (make state.operand, state.options) }
             extras }

/-- An option of the program. -/
def programFlag (names : List String) (raise : ProgramFlags → ProgramFlags) : OptionSpec ProgramState :=
  ⟨names, .flag fun s => { s with invocation := { s.invocation with flags := raise s.invocation.flags } }⟩

/-- The grammar of the program's arguments. -/
def programGrammar : Grammar ProgramState where
  program := programName
  help := Help.program
  options :=
    [helpOption,
     programFlag ["--version"] fun f => { f with version := true },
     programFlag ["--debug"] fun f => { f with debug := true },
     programFlag ["--verbose", "-v"] fun f => { f with verbose := true },
     programFlag ["--quiet", "-q"] fun f => { f with quiet := true }]
  operand := some "command"
  takesRest := true
  apply := readCommand

end Arguments

/-- Reads the arguments of the program. Words that nothing can be made of are a misuse. -/
def Invocation.ofArguments (words : List String) : Except UsageStop Invocation := do
  let (state, extras) ← Arguments.programGrammar.read {} words
  match extras ++ state.extras with
  | [] => return state.invocation
  | unread => .error (.misuse Arguments.programName
      ("unrecognized arguments: " ++ " ".intercalate unread))

/-- Settings that are given outside of any file. -/
structure Overrides where
  probeName : Option Value := none
  sandbox : Option Value := none
  format : Option Value := none
  failUnder : Option Value := none
  timeout : Option Value := none

namespace Overrides

/-- A setting in its section, if it is given. -/
def entry (name key : String) : Option Value → Mapping Value
  | some v => [(.text name, .record [(key, v)])]
  | none => []

/-- The given settings as a mapping of sections. -/
def toMapping (o : Overrides) : Mapping Value :=
  entry "instrumentation" "probe_name" o.probeName ++ entry "execution" "sandbox" o.sandbox ++
    entry "output" "format" o.format ++ entry "coverage" "threshold" o.failUnder ++
    entry "fetch" "timeout" o.timeout

end Overrides

/-- The settings that the options of a command override. -/
def CommandOptions.overrides (o : CommandOptions) : Overrides where
  probeName := o.probeName.setting .text
  sandbox := o.sandbox.setting .text
  format := o.format.setting fun format => .text format.name
  failUnder := o.failUnder.setting .float
  timeout := o.timeout.setting .float

end ScriptCoverage
