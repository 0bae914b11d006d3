import ScriptCoverage.Session.Path
import ScriptCoverage.Text.Charset
import ScriptCoverage.Text.Lines

/-!
# File trees

The files that commands read and write form a tree of directories and byte strings. A path is followed
part by part from the root, so that a missing or misplaced part is found before the file itself. Paths
and their parts have a limited length. Nothing stands at a path that holds a null character.

Specification: sections 9 and 11, the files of settings, scripts and reports.
-/

namespace ScriptCoverage

/-- What stands at a place of the tree. -/
inductive FileNode where
  | directory
  | file (bytes : List UInt8)
  deriving DecidableEq

/-- Why a file cannot be opened; `path` is the path as it was given. -/
inductive FileError where
  | notFound (path : String)
  | notDirectory (path : String)
  | isDirectory (path : String)
  | nameTooLong (path : String)
  deriving DecidableEq, Repr

def FileError.message : FileError → String
  | notFound path => s!"[Errno 2] No such file or directory: {Quoted.text path}"
  | notDirectory path => s!"[Errno 20] Not a directory: {Quoted.text path}"
  | isDirectory path => s!"[Errno 21] Is a directory: {Quoted.text path}"
  | nameTooLong path => s!"[Errno 36] File name too long: {Quoted.text path}"

/-- Nodes by the names that lead to them from the root. The root itself is a directory. -/
structure FileTree where
  nodes : List (List String × FileNode) := []

namespace FileTree

/-- What stands at a place, named from the root. -/
def node? (tree : FileTree) (place : List String) : Option FileNode :=
  if place = [] then some .directory else tree.nodes.lookup place

/-- The least number of bytes that no path has. -/
def pathLimit : Nat := 4096

/-- The greatest number of bytes that a part of a path has. -/
def partLimit : Nat := 255

/-- The place that parts lead to from a directory. Every place passed on the way is a directory. -/
def follow (tree : FileTree) (path : String) (place : List String) :
    List String → Except FileError (List String)
  | [] => .ok place
  | part :: rest =>
    match tree.node? place with
    | some .directory =>
      if partLimit < part.utf8ByteSize then .error (.nameTooLong path)
      else tree.follow path (if part = ".." then place.dropLast else place ++ [part]) rest
    | some (.file _) => .error (.notDirectory path)
    | none => .error (.notFound path)

/-- The place of a path, taken relative to the working directory. -/
def locate (tree : FileTree) (cwd p : Path) : Except FileError (List String) :=
  let path := p.toString
  if pathLimit ≤ path.utf8ByteSize then .error (.nameTooLong path)
  else tree.follow path [] (if p.isAbsolute then p.parts else cwd.parts ++ p.parts)

/-- Whether anything stands at a path. That is not known of a path that is too long. -/
def contains (tree : FileTree) (cwd p : Path) : Except FileError Bool :=
  if p.holdsNull then .ok false
  else match tree.locate cwd p with
  | .ok place => .ok (tree.node? place).isSome
  | .error (.nameTooLong path) => .error (.nameTooLong path)
  | .error _ => .ok false

/-- The bytes of a file. -/
def read (tree : FileTree) (cwd p : Path) : Except FileError (List UInt8) := do
  match tree.node? (← tree.locate cwd p) with
  | some (.file bytes) => .ok bytes
  | some .directory => .error (.isDirectory p.toString)
  | none => .error (.notFound p.toString)

/-- The tree with a node at a place; a node that stood there is replaced. -/
def put (tree : FileTree) (place : List String) (node : FileNode) : FileTree :=
  { nodes := (place, node) :: tree.nodes.filter (·.1 ≠ place) }

/-- The tree after a file was written. -/
def write (tree : FileTree) (cwd p : Path) (bytes : List UInt8) : Except FileError FileTree := do
  let place ← tree.locate cwd p
  match tree.node? place with
  | some .directory => .error (.isDirectory p.toString)
  | _ => .ok (tree.put place (.file bytes))

end FileTree

/-- The text of a file: UTF-8 with every line end read as a line feed. -/
def readText (bytes : List UInt8) : Except DecodeError Text := Text.unifyLineEnds <$> decodeUtf8 bytes

end ScriptCoverage
