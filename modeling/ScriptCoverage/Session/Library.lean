import ScriptCoverage.Text.Slice
import ScriptCoverage.Value.Basic

/-!
# Libraries

The settings are YAML, and a library reads and writes it. Which texts it takes, which values they have and how it
fails is its own affair: here it is a pair of functions that give a value or a text, or an exception.
Exceptions of a kind that the program has in mind are told apart, any other is a `LibraryError`.

Specification: section 9, the YAML library.
-/

namespace ScriptCoverage

/-- An exception of a library that is of no kind the program knows, as messages show it. -/
structure LibraryError where
  kind : String
  text : String
  deriving DecidableEq, Repr

/-- Why the YAML library gives no result. -/
inductive YamlError where
  /-- It says so itself, in its own words. -/
  | malformed (text : String)
  | other (cause : LibraryError)
  deriving DecidableEq, Repr

/-- A library that reads and writes YAML. The one that is not told otherwise takes no text and no value. -/
structure YamlLibrary where
  /-- The value of the document in a text. Data that refers to itself cannot be looked through to its end; reading
  it counts as a failure. -/
  read : Text → Except YamlError Value := fun _ => .error (.malformed "")
  /-- A document of a value, entries in order. -/
  write : Value → Except YamlError Text := fun _ => .error (.malformed "")

end ScriptCoverage
