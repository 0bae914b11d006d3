import ScriptCoverage.Yaml.Layout
import ScriptCoverage.Yaml.Node

/-!
# A YAML library

`Yaml.library` puts the reader and the writer together. It covers the part of YAML that settings are usually
written in: block and flow collections, scalars of every style, merge keys and the tag of byte strings, but no
anchors, directives or other tags, which it takes for malformed.
-/

namespace ScriptCoverage

/-- An exception of the reader, as the library raises it. It keeps its words to itself. -/
def Yaml.ReadError.raised : ReadError → YamlError
  | .malformed => .malformed "<YAMLError>"
  | .refused cause => .other cause

/-- The library that this project brings along. -/
def Yaml.library : YamlLibrary where
  read text := (Yaml.read text).mapError Yaml.ReadError.raised
  write v :=
    if v.isWritable then .ok (Yaml.write v)
    else .error (.other ⟨"ValueError", ConversionError.tooLongToWrite.message⟩)

end ScriptCoverage
