import ScriptCoverage.Yaml.Style

/-!
# Laying out documents

A document is written in block form, one entry or item a line, with two blanks of indentation for each
level. A sequence under a key is not indented further. The first line of a collection stands behind the
`-`, `?` or `:` that it belongs to, if that mark started its line. An empty collection is a pair of
brackets.
-/

namespace ScriptCoverage.Yaml

/-- A member of a set, as the key of a null. -/
def writeMember (indent : Nat) (member : Scalar) : Text :=
  let key :=
    if isSimpleKey member then writeKey member
    else '?' :: ' ' :: writeScalar (indent + 2) (indent + 2) member ++ newline indent
  key ++ ": null".toList

/-- A set: a tag, and its members on lines of their own. -/
def writeSet (indent : Nat) (members : List Scalar) : Text :=
  "!!set".toList ++
    (if members.isEmpty then " \x7b\x7d".toList
    else members.flatMap fun member => newline indent ++ writeMember indent member)

mutual

/-- What follows a mark at indentation `indent` that ends before `column`. `inline` says that the mark
started its line. Objects are written as their attributes, atoms as nulls. -/
def writeNode (indent column : Nat) (inline : Bool) : Value → Text
  | .scalar s => ' ' :: writeScalar (indent + 2) (column + 1) s
  | .list items | .tuple items =>
    if items.isEmpty then " []".toList
    else if inline then writeItems (indent + 2) [' '] items
    else writeItems indent (newline indent) items
  | .set members => ' ' :: writeSet (indent + 2) members
  | .mapping entries | .object entries =>
    if entries.isEmpty then " \x7b\x7d".toList
    else writeEntries (indent + 2) (if inline then [' '] else newline (indent + 2)) entries
  | .atom => " null".toList

/-- The items of a sequence, the first one behind `lead`, every other one on a line of its own. -/
def writeItems (indent : Nat) (lead : Text) : List Value → Text
  | [] => []
  | item :: rest =>
    lead ++ '-' :: writeNode indent (indent + 1) true item ++ writeItems indent (newline indent) rest

/-- The entries of a mapping in the same manner. A key that is not simple gets a line of its own. -/
def writeEntries (indent : Nat) (lead : Text) : List (Scalar × Value) → Text
  | [] => []
  | (key, value) :: rest =>
    let entry :=
      if isSimpleKey key then
        writeKey key ++ ':' :: writeNode indent (indent + (writeKey key).length + 1) false value
      else
        '?' :: ' ' :: writeScalar (indent + 2) (indent + 2) key ++ newline indent ++
          ':' :: writeNode indent (indent + 1) true value
    lead ++ entry ++ writeEntries indent (newline indent) rest

end

/-- The document of a value. -/
def write (v : Value) : Text :=
  let body := match v with
    | .list items | .tuple items => if items.isEmpty then "[]".toList else writeItems 0 [] items
    | .mapping entries | .object entries =>
      if entries.isEmpty then "\x7b\x7d".toList else writeEntries 0 [] entries
    | .set members => writeSet 0 members
    | .scalar s => writeScalar 2 0 s
    | .atom => "null".toList
  body ++ ['\n']

end ScriptCoverage.Yaml
