import ScriptCoverage.Config.Environment
import ScriptCoverage.Config.Validation
import ScriptCoverage.Session.Library

/-!
# Loading settings

Settings come in layers: the global file, then the file of the project or a file chosen in its place,
then what the command line overrides. A later layer wins. A file that somebody chose has to be readable;
a global file that is not counts as absent, and that is reported.

Specification: section 9, the settings files and their precedence.
-/

namespace ScriptCoverage

/-- What the program finds around it when it starts. -/
structure Surroundings where
  environment : Environment := {}
  files : FileTree := {}
  /-- The working directory. -/
  directory : Path := {}
  yaml : YamlLibrary := {}

/-- A computation that logs and may fail. What it logged before a failure stays logged. -/
abbrev Loading := ExceptT Failure Logged

/-- A part of loading whose outcome is known already. -/
def Loading.ofExcept {α : Type} (result : Except Failure α) : Loading α := ExceptT.mk (pure result)

/-- Settings from one source. -/
structure Layer where
  source : String
  data : Mapping Value

namespace Config

/-- The names that the settings file of a project may have, the preferred one first. -/
def projectNames : List String :=
  [".tailwindcov.yml", ".tailwindcov.yaml", "tailwindcov.yml", "tailwindcov.yaml"]

/-- Whether a file stands at a path. -/
def stands (s : Surroundings) (path : Path) : Except Failure Bool :=
  (s.files.contains s.directory path).mapError .file

/-- The first of some paths at which a file stands. -/
def firstStanding (s : Surroundings) : List Path → Except Failure (Option Path)
  | [] => .ok none
  | path :: rest => do if ← stands s path then return some path else firstStanding s rest

/-- The settings file of a project. -/
def projectFile (s : Surroundings) (root : Path) : Except Failure (Option Path) :=
  firstStanding s (projectNames.map root.child)

/-- The program's home directory. -/
def homeOf (s : Surroundings) : Except Failure Path :=
  match s.environment.programHome? with
  | some home => .ok home
  | none => .error .noHome

/-- The settings file in the program's home directory. -/
def globalFile (s : Surroundings) : Except Failure (Option Path) := do
  firstStanding s [(← homeOf s).child "config.yml"]

/-- The document in a settings file. -/
def readDocument (s : Surroundings) (path : Path) : Except Failure Value := do
  let bytes ← Failure.ofOpening path (s.files.read s.directory path)
  let text ← (readText bytes).mapError Failure.undecodable
  (s.yaml.read text).mapError Failure.ofYaml

/-- The entries of a settings file, with references to environment variables replaced. An empty document
has no entries. -/
def readEntries (s : Surroundings) (path : Path) : Loading (Mapping Value) := do
  match ← Loading.ofExcept (readDocument s path) with
  | .null => return []
  | .mapping entries => ExceptT.lift (expandEntries s.environment entries)
  | v => throw (.config (.noMapping v.kindName))

/-- Checks settings, of which warnings are logged. -/
def check (path : Path) (data : Mapping Value) : Loading Unit :=
  ExceptT.mk do
    match ← (validate path.toString (.mapping data)).run with
    | .ok _ => return .ok ()
    | .error cause => return .error (.conversion cause)

/-- A settings file as a layer. -/
def readLayer (s : Surroundings) (label : String) (path : Path) : Loading Layer := do
  let data ← readEntries s path
  check path data
  ExceptT.lift (Logged.tell .debug s!"Loaded {label} config from {path}")
  return ⟨s!"{label}:{path}", data⟩

/-- The layer of the global file, if there is one and it can be loaded. -/
def globalLayer (s : Surroundings) : Option Path → Logged (List Layer)
  | none => return []
  | some path => do
    match ← (readLayer s "global" path).run with
    | .ok layer => return [layer]
    | .error e => do
      Logged.tell .warning s!"Failed to load global config: {e.message}"
      return []

/-- A failure to read a file that somebody chose. A malformed document is named by its file. -/
def blame (path : Path) : Failure → Failure
  | .malformedYaml text => .config (.malformed path text)
  | e => e

/-- The layer of a chosen file. -/
def chosenLayer (s : Surroundings) (label : String) (path : Path) : Loading (List Layer) :=
  (fun layer => [layer]) <$> (readLayer s label path).adapt (blame path)

/-- The layer of the project, or of the file that is used in its place. -/
def ownLayer (s : Surroundings) (root : Path) (custom : Option Path) : Loading (List Layer) := do
  match custom with
  | some path =>
    if ← Loading.ofExcept (stands s path) then chosenLayer s "custom" path
    else throw (.config (.fileNotFound path))
  | none => match ← Loading.ofExcept (projectFile s root) with
    | some path => chosenLayer s "project" path
    | none => return []

/-- The layer of the command line, if it overrides anything. It has to be a mapping then. -/
def overrideLayer (overrides : Value) : Loading (List Layer) :=
  if !overrides.isTrue then return []
  else match overrides with
    | .mapping data => do
      ExceptT.lift (Logged.tell .debug "Applied CLI overrides")
      return [⟨"cli", data⟩]
    | _ => throw (.fault .missingAttribute)

/-- The data of layers merged, later ones winning. -/
def mergeLayers (layers : List Layer) : Mapping Value :=
  layers.foldl (fun merged layer => mergeMappings merged layer.data) []

/-- The settings that layers describe. -/
def ofLayers (layers : List Layer) : Except Failure Config := do
  let config ← ofMapping (mergeLayers layers)
  return { config with sources := layers.map (·.source) }

/-- The settings for a project directory. -/
def load (s : Surroundings) (root : Path) (custom : Option Path) (overrides : Value) :
    Loading Config := do
  let globalPath ← Loading.ofExcept (globalFile s)
  let global ← ExceptT.lift (globalLayer s globalPath)
  let own ← ownLayer s root custom
  let override ← overrideLayer overrides
  let config ← Loading.ofExcept (ofLayers (global ++ own ++ override))
  let sources := (Value.list (config.sources.map Value.text)).literal
  ExceptT.lift (Logged.tell .debug s!"Config loaded from sources: {sources}")
  return config

end Config

end ScriptCoverage
