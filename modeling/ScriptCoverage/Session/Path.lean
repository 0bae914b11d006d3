/-!
# Paths

A path is kept in normal form: repeated separators and `.` parts go, `..` parts stay because they may
cross a link, and exactly two leading separators stay two.

Specification: sections 9 and 11, the paths of settings, scripts and reports.
-/

namespace ScriptCoverage

/-- A path: how many separators lead it (none, one or two) and its parts. -/
structure Path where
  lead : Nat := 0
  parts : List String := []
  deriving DecidableEq, Repr, Inhabited

namespace Path

/-- The pieces of a text between separators. -/
def splitSeparators : List Char → List (List Char)
  | [] => [[]]
  | c :: rest =>
    if c = '/' then [] :: splitSeparators rest
    else match splitSeparators rest with
      | [] => [[c]]
      | piece :: more => (c :: piece) :: more

/-- The path that a text names. -/
def ofString (text : String) : Path :=
  let cs := text.toList
  let leading := (cs.takeWhile (· = '/')).length
  { lead := if leading = 2 then 2 else min leading 1
    parts := ((splitSeparators cs).map String.ofList).filter fun part => part ≠ "" ∧ part ≠ "." }

def isAbsolute (p : Path) : Bool := p.lead != 0

/-- The text of a path; the empty path is the current directory. -/
protected def toString (p : Path) : String :=
  let body := "/".intercalate p.parts
  if p.lead = 0 ∧ p.parts = [] then "." else String.ofList (List.replicate p.lead '/') ++ body

instance : ToString Path := ⟨Path.toString⟩

/-- Whether a null character occurs in a path. No file has such a path. -/
def holdsNull (p : Path) : Bool := p.parts.any fun part => part.toList.contains '\x00'

/-- A path below another one; an absolute path replaces it. -/
def join (p q : Path) : Path := if q.isAbsolute then q else { p with parts := p.parts ++ q.parts }

/-- A file in a directory. -/
def child (p : Path) (name : String) : Path := { p with parts := p.parts ++ [name] }

end Path

end ScriptCoverage
