import ScriptCoverage.Run.Plugin
import ScriptCoverage.Session.Failure

/-!
# Settings

Settings come as a mapping of sections. `Config.ofMapping` takes the settings the program knows from it,
with a default for each that is not given; every other entry of the section `execution` is an option
for the sandbox. Only the probe name and the two numbers are checked.

Specification: section 9, the keys, their defaults and the deep merge.
-/

namespace ScriptCoverage

/-- The settings of one invocation. -/
structure Config where
  probeName : String := Probe.defaultName
  sandbox : Value := .text Plugins.defaultSandbox
  options : Mapping Value := []
  format : Value := .text ReportFormat.text.name
  threshold : Binary64 := .zero
  timeout : Binary64 := Binary64.ofInt 30
  /-- Where the settings came from, the least important source first. -/
  sources : List String := []

/-- The entries of a section; one that is missing or no mapping has none. -/
def sectionOf (data : Mapping Value) (name : String) : Mapping Value :=
  match data.get? name with
  | some (.mapping entries) => entries
  | _ => []

namespace Config

/-- The probe name that a setting is, if it is one. -/
def probeName? : Value → Option String
  | .text name => if Probe.isName name then some name else none
  | _ => none

/-- A setting that has to be a probe name. The refusal shows it, which is a fault of its own if it cannot
be written. -/
def checkProbeName (v : Value) : Except Failure String :=
  match probeName? v with
  | some name => .ok name
  | none => do
    let shown ← v.checkedLiteral.mapError .conversion
    throw (.config (.invalidProbeName shown))

/-- A setting that has to be a number. A numeral will do; an integer beyond the range of numbers is a
fault of its own. -/
def checkNumber (v : Value) : Except Failure Binary64 :=
  match v.toFloat with
  | .ok x => .ok x
  | .error (.fault f) => .error (.fault f)
  | .error e => .error (.config (.invalidNumber e))

/-- The settings in a mapping of sections. -/
def ofMapping (data : Mapping Value) : Except Failure Config := do
  let defaults : Config := {}
  let name := ((sectionOf data "instrumentation").get? "probe_name").getD (.text defaults.probeName)
  let probeName ← checkProbeName name
  let execution := sectionOf data "execution"
  let threshold ← checkNumber
    (((sectionOf data "coverage").get? "threshold").getD (.float defaults.threshold))
  let timeout ← checkNumber (((sectionOf data "fetch").get? "timeout").getD (.float defaults.timeout))
  return {
    probeName, threshold, timeout
    sandbox := (execution.get? "sandbox").getD defaults.sandbox
    options := execution.without "sandbox"
    format := ((sectionOf data "output").get? "format").getD defaults.format }

/-- The settings as a mapping of sections. -/
def toMapping (c : Config) : Mapping Value :=
  [(.text "instrumentation", .record [("probe_name", .text c.probeName)]),
   (.text "execution", .mapping ((.text "sandbox", c.sandbox) :: c.options)),
   (.text "output", .record [("format", c.format)]),
   (.text "coverage", .record [("threshold", .float c.threshold)]),
   (.text "fetch", .record [("timeout", .float c.timeout)])]

end Config

mutual

/-- Entries laid over a mapping, one after the other. -/
def mergeEntries (base : Mapping Value) : List (Scalar × Value) → Mapping Value
  | [] => base
  | (key, value) :: rest => mergeEntries (base.insert key (mergeValue (base.find? key) value)) rest

/-- A value laid over what was there: two mappings are merged, anything else is replaced. -/
def mergeValue : Option Value → Value → Value
  | some (.mapping base), .mapping overlay => .mapping (mergeEntries base overlay)
  | _, value => value

end

/-- Two mappings merged deeply, the second one winning. -/
def mergeMappings (base overlay : Mapping Value) : Mapping Value := mergeEntries base overlay

/-- The position in a list of some length that an index names. Negative ones count from the end. -/
def indexPosition? (length : Nat) (index : Int) : Option Nat :=
  let position := if index < 0 then index + length else index
  if 0 ≤ position ∧ position < length then some position.toNat else none

/-- The index that a key is. A truth value counts as a number, a fraction does not. -/
def indexOf? : Scalar → Option Int
  | .int i => some i
  | .bool b => some (if b then 1 else 0)
  | _ => none

/-- Entries laid over a list, whose items their keys name by index. An item is merged with a value only if
the list holds the key as an item too. -/
def mergeItems (items : List Value) : List (Scalar × Value) → Except Fault (List Value)
  | [] => .ok items
  | (key, value) :: rest =>
    let held := items.any fun item => match item with
      | .scalar s => s.key == key.key
      | _ => false
    match indexOf? key with
    | some index => match indexPosition? items.length index with
      | some n => mergeItems (items.set n (mergeValue (if held then items[n]? else none) value)) rest
      | none => .error .badIndex
    | none => .error .wrongType

/-- A value laid over another one. Only entries can be laid over something, and only over a mapping or a
list. -/
def merge : Value → Value → Except Fault Value
  | .mapping base, .mapping overlay => .ok (.mapping (mergeMappings base overlay))
  | .list items, .mapping overlay => .list <$> mergeItems items overlay
  | _, _ => .error .missingAttribute

/-- The settings in a value, which has to be a mapping of sections. -/
def Config.ofValue : Value → Except Failure Config
  | .mapping data => Config.ofMapping data
  | _ => .error (.fault .missingAttribute)

end ScriptCoverage
