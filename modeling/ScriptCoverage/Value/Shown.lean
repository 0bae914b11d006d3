import ScriptCoverage.Number.Decimal
import ScriptCoverage.Text.Quoted
import ScriptCoverage.Value.Basic

/-!
# How messages show values

`Value.literal` shows a value with text quoted, so that a text and a number never look alike;
`Value.display` shows a text, a date or a date-time as it is written and every other value as `literal` does.
-/

namespace ScriptCoverage

/-- A scalar as messages spell it. -/
def Scalar.literal : Scalar → String
  | .null => "None"
  | .bool true => "True"
  | .bool false => "False"
  | .int i => toString i
  | .float x => x.text
  | .text s => Quoted.text s
  | .bytes bs => Quoted.bytes bs
  | .date d => d.literal
  | .dateTime t => t.literal

/-- The name of a scalar's kind. -/
def Scalar.kindName : Scalar → String
  | .null => "NoneType"
  | .bool _ => "bool"
  | .int _ => "int"
  | .float _ => "float"
  | .text _ => "str"
  | .bytes _ => "bytes"
  | .date _ => "date"
  | .dateTime _ => "datetime"

namespace Value

mutual

/-- A value as messages spell it. -/
def literal : Value → String
  | .scalar s => s.literal
  | .list items => "[" ++ ", ".intercalate (literals items) ++ "]"
  | .tuple [item] => "(" ++ literal item ++ ",)"
  | .tuple items => "(" ++ ", ".intercalate (literals items) ++ ")"
  | .set members =>
    if members.isEmpty then "set()"
    else "\x7b" ++ ", ".intercalate (members.map Scalar.literal) ++ "\x7d"
  | .mapping entries => "\x7b" ++ ", ".intercalate (entryLiterals entries) ++ "\x7d"
  | .object _ => "<object>"
  | .atom => "<object>"

def literals : List Value → List String
  | [] => []
  | item :: rest => item.literal :: literals rest

def entryLiterals : List (Scalar × Value) → List String
  | [] => []
  | (key, value) :: rest => (key.literal ++ ": " ++ literal value) :: entryLiterals rest

end

/-- A value in running text. -/
def display : Value → String
  | .text s => s
  | .scalar (.date d) => d.text
  | .scalar (.dateTime t) => t.text
  | v => v.literal

/-- The name of a value's kind. -/
def kindName : Value → String
  | .scalar s => s.kindName
  | .list _ => "list"
  | .tuple _ => "tuple"
  | .set _ => "set"
  | .mapping _ => "dict"
  | .object _ => "object"
  | .atom => "object"

end Value

/-- A key in running text. -/
def Scalar.display (s : Scalar) : String := (Value.scalar s).display

end ScriptCoverage
