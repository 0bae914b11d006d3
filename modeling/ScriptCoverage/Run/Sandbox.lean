import ScriptCoverage.Session.Basic

/-!
# Sandboxes and other plugins in use

A session has the plugins that are built in and those that its packages add. A sandbox is made afresh
for every run, with options as named arguments; a name that the construction itself takes is no option.

Specification: section 10, sandbox and reporter plugins.
-/

namespace ScriptCoverage

/-- A place where scripts execute, with the global functions that the host has defined there. -/
structure Sandbox where
  name : String
  globals : List String := []

/-- A plugin ready for use. -/
inductive Plugin where
  | reporter (className : String) (format : ReportFormat)
  | sandbox (className : String) (made : Sandbox)
  | foreign (className : String)

namespace Plugins

/-- The built-in plugins of a group and those that packages add to it. -/
def discover (group : String) (base : Option PluginBase) (builtins : Plugins) : Action Plugins := do
  match (← get).entryPoints.ofGroup group with
  | .error text => throw (.pluginSystem text)
  | .ok points => Action.ofLogged (extend group base builtins points)

/-- The names of all plugins of a group, whatever they extend, sorted. -/
def names (group : String) (builtins : Plugins) : Action (List String) :=
  sortedNames <$> discover group none builtins

def sandboxes : Action Plugins := discover sandboxGroup (some .sandbox) builtinSandboxes

def reporters : Action Plugins := discover reporterGroup (some .reporter) builtinReporters

def sandboxNames : Action (List String) := names sandboxGroup builtinSandboxes

def reporterNames : Action (List String) := names reporterGroup builtinReporters

/-- A fresh sandbox of an engine. A memory limit among the options is passed on to the engine. -/
def makeSandbox (engine : String) (options : Mapping Value) : Action Sandbox := do
  if (options.get? "self").isSome then throw (.fault .wrongType)
  if !(← get).engineInstalled then throw (.missing .engine)
  match options.get? "memory_limit" with
  | none | some .null => pure ()
  | some limit => Action.emit (.memoryLimit limit)
  return { name := engine }

/-- Makes a plugin of what an entry point loaded to. What is no class cannot be made into one, and a value that
does not count as true is not even tried. -/
def make (options : Mapping Value) : Loaded → Action (Option Plugin)
  | .value v => if v.isTrue then throw (.fault .wrongType) else return none
  | .cls (.reporter name format) => return some (.reporter name format)
  | .cls (.foreign name) => return some (.foreign name)
  | .cls (.sandbox name engine) => return some (.sandbox name (← makeSandbox engine options))

/-- The plugin of a name, if there is one. -/
def make? (plugins : Plugins) (name : Value) (options : Mapping Value) : Action (Option Plugin) := do
  match ← Action.ofExcept ((plugins.named name).mapError Failure.fault) with
  | some loaded => make options loaded
  | none => return none

/-- The report format of a name, if there is a reporter of that name. -/
def reporter? (name : Value) : Action (Option ReportFormat) := do
  match ← (← reporters).make? name [] with
  | some (.reporter _ format) => return some format
  | _ => return none

/-- The names that the choice of a sandbox takes itself. -/
def choiceNames : List String := ["name", "group", "base_class", "builtins"]

/-- Whether an option can be passed on under its key: the key is a text, and the choice of a sandbox does
not take it itself. -/
def isPassable : Scalar → Bool
  | .text key => !choiceNames.contains key
  | _ => false

/-- A fresh sandbox of a name, if there is a sandbox of that name. -/
def sandbox? (name : Value) (options : Mapping Value) : Action (Option Sandbox) := do
  if options.any fun (key, _) => !isPassable key then throw (.fault .wrongType)
  match ← (← sandboxes).make? name options with
  | some (.sandbox _ made) => return some made
  | _ => return none

/-- A fresh sandbox of the default name. -/
def freshDefault : Action Sandbox := do
  match ← sandbox? (.text defaultSandbox) [] with
  | some made => return made
  | none => throw (.fault .missingAttribute)

end Plugins

end ScriptCoverage
