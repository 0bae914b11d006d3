/-!
# Probe names

The name of the probe is spliced into scripts as the callee of a call, so it has to be an identifier of
plain ASCII. The check reads a name as a line: one final line feed does not count.

Specification: section 4.2, the probe name.
-/

namespace ScriptCoverage.Probe

/-- The name under which probes call the tracker unless another one is chosen. -/
def defaultName : String := "__tailwindcov_track__"

def startsIdentifier (c : Char) : Bool := c.isAlpha || c == '_' || c == '$'

def continuesIdentifier (c : Char) : Bool := c.isAlphanum || c == '_' || c == '$'

/-- A nonempty run of ASCII letters, digits, underscores and dollar signs that no digit starts. -/
def isIdentifier : List Char → Bool
  | [] => false
  | c :: rest => startsIdentifier c && rest.all continuesIdentifier

/-- Whether a name may be spliced into a script: an identifier, with or without a final line feed. -/
def isName (name : String) : Bool :=
  let cs := name.toList
  isIdentifier cs || (cs.getLast? == some '\n' && isIdentifier cs.dropLast)

end ScriptCoverage.Probe
