import ScriptCoverage.Number.Decimal
import ScriptCoverage.Text.Quoted

/-!
# JSON documents

Reports for machines are JSON documents, written with one member a line and two blanks of indentation
per level. Every character outside printable ASCII is escaped, those beyond `U+FFFF` as a pair of
surrogates, so that a report survives any encoding. Its integers are ids, ranges and counts; they are
written as integers of at most `Numeral.maxDigits` digits are, which positions in a script and counts are.

Specification: section 10, the document of the reporter `json`.
-/

namespace ScriptCoverage

/-- A JSON document. -/
inductive Json where
  | bool (b : Bool)
  | int (i : Int)
  | number (x : Binary64)
  | text (s : String)
  | list (items : List Json)
  | record (members : List (String × Json))

namespace Json

/-- A 16-bit code unit as an escape. -/
def unitEscape (n : Nat) : List Char := '\\' :: 'u' :: Quoted.hexDigits 4 n

/-- One character of a JSON string. -/
def escape (c : Char) : List Char :=
  if c = '"' ∨ c = '\\' then ['\\', c]
  else if c = '\n' then ['\\', 'n']
  else if c = '\r' then ['\\', 'r']
  else if c = '\t' then ['\\', 't']
  else if c = '\x08' then ['\\', 'b']
  else if c = '\x0c' then ['\\', 'f']
  else if ' ' ≤ c ∧ c ≤ '~' then [c]
  else if c.toNat < 0x10000 then unitEscape c.toNat
  else
    let n := c.toNat - 0x10000
    unitEscape (0xd800 + n / 0x400) ++ unitEscape (0xdc00 + n % 0x400)

def quoted (s : String) : List Char := '"' :: s.toList.flatMap escape ++ ['"']

/-- A line feed and the indentation of a level. -/
def newline (level : Nat) : List Char := '\n' :: List.replicate (2 * level) ' '

mutual

/-- The text of a document at a level of indentation. -/
def write (level : Nat) : Json → List Char
  | bool b => (if b then "true" else "false").toList
  | int i => (toString i).toList
  | number x => x.text.toList
  | text s => quoted s
  | list [] => ['[', ']']
  | list items => '[' :: writeItems (level + 1) items ++ newline level ++ [']']
  | record [] => ['\x7b', '\x7d']
  | record members => '\x7b' :: writeMembers (level + 1) members ++ newline level ++ ['\x7d']

def writeItems (level : Nat) : List Json → List Char
  | [] => []
  | [item] => newline level ++ write level item
  | item :: rest => newline level ++ write level item ++ ',' :: writeItems level rest

def writeMembers (level : Nat) : List (String × Json) → List Char
  | [] => []
  | [(name, value)] => newline level ++ quoted name ++ [':', ' '] ++ write level value
  | (name, value) :: rest =>
    newline level ++ quoted name ++ [':', ' '] ++ write level value ++ ',' :: writeMembers level rest

end

end Json

end ScriptCoverage
