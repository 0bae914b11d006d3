import ScriptCoverage.Command.Program
import ScriptCoverage.Yaml.Library

/-!
# The executable

The executable looks at the files that an invocation may touch, runs the program on what it found, and
puts the outcome back: files that changed, the standard output, and the log. A parser and an engine are
not linked in, so the commands that need them report them as missing.
-/

namespace ScriptCoverage.Executable

/-- The paths that an invocation may read or write. -/
def touched (invocation : Invocation) (home : Option Path) (directory : Path) : List Path :=
  let settings := Config.projectNames.map directory.child ++ (home.map (·.child "config.yml")).toList
  match invocation.command with
  | none => settings
  | some (command, options) =>
    let script := match command with
      | .run path => [path]
      | .instrument path => [path]
      | _ => []
    settings ++ options.config.value?.toList ++ options.output.value?.toList ++ script

/-- The names of the environment variables that a text refers to. -/
def referredNames : Text → List String
  | '$' :: '\x7b' :: rest =>
    ((Reference.parse? rest).map fun (r, _) => String.ofList r.name).toList ++ referredNames rest
  | _ :: rest => referredNames rest
  | [] => []

/-- The names that the files of a tree refer to. -/
def namesIn (tree : FileTree) : List String :=
  tree.nodes.flatMap fun (_, node) =>
    match node with
    | .file bytes => referredNames (decodeLatin1 bytes)
    | .directory => []

/-- Adds what stands on the disk at a place and on the way to it. -/
def survey (tree : FileTree) (place : List String) : IO FileTree := do
  let directory ← IO.currentDir
  let mut tree := tree
  for n in List.range (place.length + 1) do
    let here := place.take n
    let path := directory.join ("/" ++ "/".intercalate here)
    if ← path.isDir then
      tree := tree.put here .directory
    else if let .ok bytes ← (IO.FS.readBinFile path).toBaseIO then
      tree := tree.put here (.file bytes.data.toList)
  return tree

/-- The variables of the environment among some names. -/
def bindingsOf (names : List String) : IO (List (String × String)) :=
  names.filterMapM fun name => do return (← IO.getEnv name).map fun value => (name, value)

/-- Writes the files that changed. -/
def store (before after : FileTree) : IO Unit :=
  after.nodes.forM fun (place, node) =>
    match node with
    | .file bytes =>
      if before.node? place = some node then pure ()
      else IO.FS.writeBinFile ("/" ++ "/".intercalate place) ⟨bytes.toArray⟩
    | .directory => pure ()

/-- The session that an invocation starts with. -/
def start (words : List String) : IO Session := do
  let directory := Path.ofString (← IO.currentDir).toString
  let own ← bindingsOf ["HOME", Environment.homeVariable]
  let invocation := (Invocation.ofArguments words).toOption.getD {}
  let paths := touched invocation { bindings := own : Environment }.programHome? directory
  let files ← paths.foldlM (fun tree path => survey tree (directory.join path).parts) {}
  let environment := { bindings := own ++ (← bindingsOf (namesIn files)) }
  return { environment, files, directory, engineInstalled := false
           network := fun _ => .error (.unreachable "no network"), yaml := Yaml.library }

end ScriptCoverage.Executable

open ScriptCoverage in
def main (words : List String) : IO UInt32 := do
  let session ← Executable.start words
  let (ending, after) := (Program.main words).run session
  Executable.store session.files after.files
  IO.print (String.ofList after.output)
  for entry in after.logFrom ending.level do
    IO.eprintln s!"{entry.level.name} {entry.message}"
  if let some message := ending.misuse then IO.eprintln message
  match ending.outcome with
  | .ok status => return UInt32.ofNat status.code
  | .error e =>
    IO.eprintln e.message
    return 1
