import ScriptCoverage.Command.Exit
import ScriptCoverage.Run.Sandbox
import ScriptCoverage.Text.Lines

/-!
# The state of the installation

The command `status` prints the version, the home directory, the plugins and the settings in force.

Specification: section 11, `status`.
-/

namespace ScriptCoverage.Status

/-- One line for a sandbox: whether it can be made. -/
def sandboxLine (name : String) (loaded : Loaded) : Action String := do
  match ← Action.attempt (Plugins.make [] loaded) with
  | .ok _ => return s!"  {name}: available"
  | .error e => return s!"  {name}: unavailable ({e.message})"

/-- Prints a line for every sandbox, in order. -/
def printSandboxes : List (Scalar × Loaded) → Action Unit
  | [] => return ()
  | (name, loaded) :: rest => do
    Action.printLine (← sandboxLine name.display loaded)
    printSandboxes rest

/-- Plugins sorted by name. -/
def sortedPlugins (plugins : Plugins) : Plugins :=
  plugins.mergeSort fun (a, _) (b, _) => decide (a.display ≤ b.display)

/-- The settings as the indented lines of a document. -/
def settingsLines (yaml : YamlLibrary) (config : Config) : Except YamlError (List String) := do
  let document ← yaml.write (.mapping config.toMapping)
  return document.shownLines.map fun line => "  " ++ String.ofList line

/-- The command `status`. -/
def print (config : Config) : Action ExitStatus := do
  let s ← get
  Action.printLine s!"tailwindcov version: {s.version}"
  let home ← Action.ofExcept (Config.homeOf s.toSurroundings)
  Action.printLine s!"Home directory: {home}"
  Action.printLine ""
  Action.printLine "Sandbox plugins:"
  printSandboxes (sortedPlugins (← Plugins.sandboxes))
  Action.printLine ""
  Action.printLine "Reporter plugins:"
  (← Plugins.reporterNames).forM fun name => Action.printLine s!"  {name}"
  Action.printLine ""
  let sources := if config.sources.isEmpty then "defaults" else ", ".intercalate config.sources
  Action.printLine s!"Configuration ({sources}):"
  (← Action.ofExcept ((settingsLines s.yaml config).mapError .ofYaml)).forM Action.printLine
  return .success

end ScriptCoverage.Status
