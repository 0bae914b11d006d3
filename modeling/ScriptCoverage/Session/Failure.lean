import ScriptCoverage.Address.Basic
import ScriptCoverage.Probe.Instrument
import ScriptCoverage.Run.Fetch
import ScriptCoverage.Session.FileTree
import ScriptCoverage.Session.Library
import ScriptCoverage.Value.Conversion

/-!
# Failures

Everything that can stop a step of the program, as a cause. `Failure.message` is the one place that
words them.

Specification: section 7, error handling.
-/

namespace ScriptCoverage

/-- Why settings cannot be loaded. -/
inductive ConfigError where
  | fileNotFound (path : Path)
  | malformed (path : Path) (text : String)
  | noMapping (kindName : String)
  | invalidProbeName (shown : String)
  | invalidNumber (cause : ConversionError)
  deriving DecidableEq, Repr

def ConfigError.message : ConfigError → String
  | fileNotFound path => s!"Config file not found: {path}"
  | malformed path text => s!"Invalid YAML in {path}: {text}"
  | noMapping kindName => s!"Config file must be a YAML mapping, got {kindName}"
  | invalidProbeName shown => s!"Invalid probe name {shown}: must be a JavaScript identifier"
  | invalidNumber cause => s!"Invalid numeric config value: {cause.message}"

def InstrumentError.message : InstrumentError → String
  | invalidName name => s!"Invalid probe name {Quoted.text name}"
  | unsorted id start previous =>
    s!"Unit {id} starts at {start}, before the previous unit's start {previous}; " ++
      "units must be sorted by start offset"
  | misplaced point id => s!"Insertion point {point} for unit {id} is out of order"

/-- A collaborator that is not installed. -/
inductive Dependency where
  | parser
  | engine
  deriving DecidableEq, Repr

def Dependency.message : Dependency → String
  | parser => "esprima must be installed to parse JavaScript (pip install esprima)"
  | engine => "quickjs must be installed to execute JavaScript (pip install quickjs)"

/-- Why a step of the program stops. -/
inductive Failure where
  | fault (cause : Fault)
  | conversion (cause : ConversionError)
  | emptyRange (cause : EmptyRange)
  | unknownUnit (cause : UnknownUnit)
  | instrument (cause : InstrumentError)
  | missing (dependency : Dependency)
  /-- The parser refused the script, in its own words. -/
  | unparsable (text : String)
  | engine (cause : EngineError)
  | alreadyExecuted
  | notExecuted
  | retrieval (cause : RetrievalError)
  | address (cause : AddressError)
  /-- A response declares a charset whose name holds a null character. -/
  | nullInCharset
  /-- There is no home directory to look for settings in. -/
  | noHome
  | config (cause : ConfigError)
  | file (cause : FileError)
  /-- A file was to be opened by a path that holds a null character. -/
  | nullInPath
  | undecodable (cause : DecodeError)
  /-- The YAML library refused a text or a value, in its own words. -/
  | malformedYaml (text : String)
  /-- A library failed in a way that nobody counts on. -/
  | library (cause : LibraryError)
  /-- The entry points of installed packages cannot be listed. -/
  | pluginSystem (text : String)

namespace Failure

/-- An id that gives no unit, as a failure. -/
def ofId : IdError → Failure
  | .unknown cause => .unknownUnit cause
  | .unwritable cause => .conversion cause

/-- A failure of the YAML library, as a failure. -/
def ofYaml : YamlError → Failure
  | .malformed text => .malformedYaml text
  | .other cause => .library cause

/-- What stops a retrieval, as a failure. -/
def ofFetch : FetchError → Failure
  | .retrieval cause => .retrieval cause
  | .fault cause => .fault cause
  | .nullInCharset => .nullInCharset
  | .library cause => .library cause

/-- The result of opening a file. A path that holds a null character is refused before the file system
is asked. -/
def ofOpening {α : Type} (path : Path) (result : Except FileError α) : Except Failure α :=
  if path.holdsNull then .error .nullInPath else result.mapError .file

def message : Failure → String
  | fault cause => cause.label
  | conversion cause => cause.message
  | emptyRange cause => cause.message
  | unknownUnit cause => cause.message
  | instrument cause => cause.message
  | missing dependency => dependency.message
  | unparsable text => text
  | engine cause => cause.message
  | alreadyExecuted => "Coverage run has already been executed"
  | notExecuted => "Coverage run has not been executed yet"
  | retrieval cause => cause.message
  | address cause => cause.message
  | nullInCharset => "embedded null character"
  | noHome => "Could not determine home directory."
  | config cause => cause.message
  | file cause => cause.message
  | nullInPath => "embedded null byte"
  | undecodable cause => cause.message
  | malformedYaml text => text
  | library cause => cause.text
  | pluginSystem text => text

end Failure

end ScriptCoverage
