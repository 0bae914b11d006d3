import ScriptCoverage.Config.Basic
import ScriptCoverage.Config.Similarity

/-!
# Checking settings

Checking reports what is likely a mistake: unknown keys, sections that are no mappings, and values that
do not suit their setting. Options of the sandbox pass unchecked. Nothing is refused here, but a key
that is no text cannot be compared with the known ones, and that stops the check; so does an integer
that is too long to be shown in a warning.

Specification: section 9, the validation.
-/

namespace ScriptCoverage

/-- A likely mistake in settings. `key` says where it is, if it is at a key. -/
structure ConfigWarning where
  message : String
  source : String
  key : Value := .null
  suggestion : Option String := none

/-- The warning in one line, with the likely intention. -/
def ConfigWarning.line (w : ConfigWarning) : String :=
  s!"{w.source}: {w.message}" ++
    match w.suggestion with
    | some name => s!" (did you mean '{name}'?)"
    | none => ""

namespace Config

def knownSections : List String :=
  ["version", "instrumentation", "execution", "output", "coverage", "fetch"]

/-- The keys of the sections that have a fixed set of them. -/
def knownKeys : String → Option (List String)
  | "instrumentation" => some ["probe_name"]
  | "output" => some ["format"]
  | "coverage" => some ["threshold"]
  | "fetch" => some ["timeout"]
  | _ => none

def knownFormats : List String :=
  [ReportFormat.text, .html, .json, .summary].map ReportFormat.name

/-- Whether a key is one of some names. -/
def isKnown (names : List String) : Scalar → Bool
  | .text name => names.contains name
  | _ => false

/-- The name that a misspelt key resembles. A byte string resembles none; other keys that are no text
cannot be compared. -/
def suggest (key : Scalar) (names : List String) : Except Fault (Option String) :=
  match key with
  | .text name => .ok (Similarity.closest name names)
  | .bytes _ => .ok none
  | _ => .error .wrongType

/-- A setting as it is given; nothing if it or its section is missing or empty. -/
def setting? (data : Mapping Value) (name key : String) : Option Value :=
  match (sectionOf data name).get? key with
  | some .null => none
  | v => v

/-- Warnings, with the log they leave, or what stopped the check. -/
abbrev Check := ExceptT ConversionError Logged (List ConfigWarning)

namespace Check

def nothing : Check := return []

/-- A part of a check whose outcome is known already. -/
def ofExcept {α : Type} (result : Except ConversionError α) : ExceptT ConversionError Logged α :=
  ExceptT.mk (pure result)

/-- Reports a warning. -/
def warn (w : ConfigWarning) : Check := do
  ExceptT.lift (Logged.tell .warning w.line)
  return [w]

/-- The checks one after the other. -/
def all : List Check → Check
  | [] => nothing
  | check :: rest => do
    let first ← check
    let more ← all rest
    return first ++ more

end Check

/-- Reports a key that is not among the known ones of its place. `message` and `place` take the key as it
is shown. -/
def checkKey (source : String) (names : List String) (message : String → String) (place : String → Value)
    (key : Scalar) : Check := do
  if isKnown names key then Check.nothing
  else
    let shown ← Check.ofExcept (Value.scalar key).checkedDisplay
    let suggestion ← Check.ofExcept ((suggest key names).mapError ConversionError.fault)
    Check.warn { message := message shown, source, key := place shown, suggestion }

def checkTopLevel (source : String) (data : Mapping Value) : Check :=
  Check.all (data.map fun (key, _) =>
    checkKey source knownSections (fun shown => s!"Unknown top-level key '{shown}'") (fun _ => .scalar key)
      key)

/-- Checks the form and the keys of a section. -/
def checkSection (source : String) (data : Mapping Value) (name : String) : Check :=
  match data.get? name with
  | none | some .null => Check.nothing
  | some (.mapping entries) => match knownKeys name with
    | none => Check.nothing
    | some names => Check.all (entries.map fun (key, _) =>
        checkKey source names (fun shown => s!"Unknown key '{name}.{shown}'")
          (fun shown => .text s!"{name}.{shown}") key)
  | some v => Check.warn
      { message := s!"'{name}' must be a mapping, got {v.kindName}", source, key := .text name }

def checkProbe (source : String) (data : Mapping Value) : Check :=
  match setting? data "instrumentation" "probe_name" with
  | none => Check.nothing
  | some v => match probeName? v with
    | some _ => Check.nothing
    | none => do
      let shown ← Check.ofExcept v.checkedLiteral
      Check.warn
        { message := "'instrumentation.probe_name' must be a JavaScript identifier, got " ++ shown
          source, key := .text "instrumentation.probe_name" }

def checkSandbox (source : String) (data : Mapping Value) : Check :=
  match setting? data "execution" "sandbox" with
  | none | some (.text _) => Check.nothing
  | some _ => Check.warn
      { message := "'execution.sandbox' must be a string", source, key := .text "execution.sandbox" }

/-- A format has to be one of the known names; what cannot be looked for among them stops the check. -/
def checkFormat (source : String) (data : Mapping Value) : Check :=
  match setting? data "output" "format" with
  | none => Check.nothing
  | some v =>
    let known := match v with
      | .scalar s => isKnown knownFormats s
      | _ => false
    if !v.canBelong then throw (.fault .wrongType)
    else if known then Check.nothing
    else do
      let shown ← Check.ofExcept v.checkedDisplay
      Check.warn
        { message := s!"Unknown output format '{shown}'", source, key := .text "output.format"
          suggestion := Similarity.closest shown knownFormats }

/-- Whether a value is a number; the truth values are not. -/
def isNumber : Value → Bool
  | .int _ => true
  | .float _ => true
  | _ => false

def checkThreshold (source : String) (data : Mapping Value) : Check :=
  match setting? data "coverage" "threshold" with
  | none => Check.nothing
  | some v =>
    let place := "coverage.threshold"
    if !isNumber v then
      Check.warn { message := s!"'{place}' must be a number", source, key := .text place }
    else if Value.intLe? 0 v = some true ∧ v.leInt? 100 = some true then Check.nothing
    else do
      let shown ← Check.ofExcept v.checkedDisplay
      Check.warn
        { message := s!"'{place}' must be between 0 and 100, got {shown}", source, key := .text place }

def checkTimeout (source : String) (data : Mapping Value) : Check :=
  match setting? data "fetch" "timeout" with
  | none => Check.nothing
  | some v =>
    if isNumber v ∧ v.leInt? 0 ≠ some true then Check.nothing
    else Check.warn
      { message := "'fetch.timeout' must be a positive number", source, key := .text "fetch.timeout" }

/-- Checks settings that come from `source`. -/
def validate (source : String) : Value → Check
  | .mapping data => Check.all
      ([checkTopLevel source data] ++ knownSections.tail.map (checkSection source data) ++
        [checkProbe source data, checkSandbox source data, checkFormat source data,
         checkThreshold source data, checkTimeout source data])
  | v => return [{ message := s!"Config must be a mapping, got {v.kindName}", source }]

end Config

end ScriptCoverage
