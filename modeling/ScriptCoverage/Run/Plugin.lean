import ScriptCoverage.Report.Basic
import ScriptCoverage.Session.Log
import ScriptCoverage.Value.Conversion

/-!
# Plugins

Reporters and sandboxes are plugins. A few are built in and always available; packages add others, or
replace them, through entry points. An entry point counts only if it loads to a class that extends the
base of its group; any other is reported and leaves the plugins as they are.

Specification: section 10, entry-point discovery.
-/

namespace ScriptCoverage

/-- A class that a plugin may be: a reporter for a format, a sandbox around an engine, or neither. -/
inductive PluginClass where
  | reporter (className : String) (format : ReportFormat)
  | sandbox (className : String) (engine : String)
  | foreign (className : String)
  deriving DecidableEq, Repr

def PluginClass.className : PluginClass → String
  | reporter name _ => name
  | sandbox name _ => name
  | foreign name => name

/-- What plugins of a group have to extend: a class, given by its name and by the classes that extend it. -/
structure PluginBase where
  className : String
  extendedBy : PluginClass → Bool

namespace PluginBase

def reporter : PluginBase where
  className := "ReporterPlugin"
  extendedBy
    | .reporter _ _ => true
    | _ => false

def sandbox : PluginBase where
  className := "SandboxPlugin"
  extendedBy
    | .sandbox _ _ => true
    | _ => false

end PluginBase

/-- What an entry point loads to. -/
inductive Loaded where
  | cls (c : PluginClass)
  | value (v : Value)

/-- A named entry point, which loads to something or fails. -/
structure EntryPoint where
  name : String
  load : Except String Loaded

/-- The entry points of installed packages by group, or why they cannot be listed. -/
structure EntryPoints where
  groups : List (String × List EntryPoint) := []
  failure : Option String := none

/-- The entry points of a group. -/
def EntryPoints.ofGroup (eps : EntryPoints) (group : String) : Except String (List EntryPoint) :=
  match eps.failure with
  | some text => .error text
  | none => .ok ((eps.groups.lookup group).getD [])

/-- Plugins by name, in order. -/
abbrev Plugins := Mapping Loaded

namespace Plugins

def sandboxGroup : String := "tailwindcov.sandboxes"

def reporterGroup : String := "tailwindcov.reporters"

/-- The engine that runs scripts unless another sandbox is chosen. -/
def defaultSandbox : String := "quickjs"

/-- The sandbox that is always available. -/
def builtinSandboxes : Plugins :=
  [(.text defaultSandbox, .cls (.sandbox "QuickJSSandbox" defaultSandbox))]

/-- The reporters that are always available. -/
def builtinReporters : Plugins :=
  [(.text "text", .cls (.reporter "TextReporter" .text)),
   (.text "html", .cls (.reporter "HTMLReporter" .html)),
   (.text "json", .cls (.reporter "JSONReporter" .json)),
   (.text "summary", .cls (.reporter "SummaryReporter" .summary))]

/-- Why an entry point does not become a plugin. -/
inductive Rejection where
  | failed (text : String)
  | wrongBase (baseName : String)
  deriving DecidableEq, Repr

def Rejection.message (name : String) : Rejection → String
  | failed text => s!"Failed to load plugin '{name}': {text}"
  | wrongBase baseName => s!"Plugin '{name}' does not inherit from {baseName}, skipping"

/-- What an entry point contributes. Without a base anything that loads is accepted; with one, only a
class that extends it. -/
def accept (base : Option PluginBase) (ep : EntryPoint) : Except Rejection Loaded :=
  match ep.load, base with
  | .error text, _ => .error (.failed text)
  | .ok loaded, none => .ok loaded
  | .ok (.cls c), some b => if b.extendedBy c then .ok (.cls c) else .error (.wrongBase b.className)
  | .ok (.value _), some _ => .error (.failed Fault.wrongType.label)

/-- Adds the entry points of a group to plugins, in order; an accepted one replaces a plugin of its name. -/
def extend (group : String) (base : Option PluginBase) : Plugins → List EntryPoint → Logged Plugins
  | plugins, [] => pure plugins
  | plugins, ep :: rest =>
    match accept base ep with
    | .ok loaded => do
      Logged.tell .debug s!"Discovered plugin: {ep.name} (group: {group})"
      extend group base (plugins.insert (.text ep.name) loaded) rest
    | .error rejection => do
      Logged.tell .warning (rejection.message ep.name)
      extend group base plugins rest

/-- The plugin that a setting names. What can be no name at all is refused. -/
def named (plugins : Plugins) (name : Value) : Except Fault (Option Loaded) :=
  match name with
  | .scalar s => .ok (plugins.find? s)
  | v => if v.isName then .ok none else .error .wrongType

/-- The names of plugins, sorted by code points. -/
def sortedNames (plugins : Plugins) : List String :=
  (plugins.map fun (name, _) => name.display).mergeSort fun a b => decide (a ≤ b)

end Plugins

end ScriptCoverage
