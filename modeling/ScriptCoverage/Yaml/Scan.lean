import ScriptCoverage.Yaml.Scalar

/-!
# Scanning YAML texts

The scanner reads token after token. Block and flow collections, all kinds of scalars, comments,
document marks and the tag of bytes are read; anchors, aliases, other tags and directives are not.
-/

namespace ScriptCoverage.Yaml

namespace Scanner

/-- A mark of `length` characters between documents. -/
def documentMark (s : Scanner) (t : Token) : Option Scanner := do
  let s ← (s.unwindTo (-1)).dropKey
  return { (s.forward 3).push t with keyAllowed := false }

def flowStart (s : Scanner) (t : Token) : Option Scanner := do
  let s ← s.saveKey
  return { s.forward1.push t with
    possibleKey := none, outerKeys := s.possibleKey :: s.outerKeys, keyAllowed := true }

/-- The end of a flow collection; outside of all it is an error. -/
def flowEnd (s : Scanner) (t : Token) : Option Scanner := do
  let s ← s.dropKey
  match s.outerKeys with
  | [] => none
  | key :: outerKeys => some { s.forward1.push t with possibleKey := key, outerKeys, keyAllowed := false }

def flowEntry (s : Scanner) : Option Scanner := do
  let s ← { s with keyAllowed := true }.dropKey
  return s.forward1.push .flowEntry

/-- Opens a block collection at this column; it may open only where a key may begin. -/
def openHere (s : Scanner) (t : Token) : Option Scanner :=
  if s.inFlow then some s
  else if s.keyAllowed then some (s.openBlock s.column s.tokens.length t)
  else none

def blockEntry (s : Scanner) : Option Scanner := do
  let s ← { ← s.openHere .blockSequenceStart with keyAllowed := true }.dropKey
  return s.forward1.push .blockEntry

/-- A `?` in front of a key. -/
def keyMark (s : Scanner) : Option Scanner := do
  let s ← { ← s.openHere .blockMappingStart with keyAllowed := !s.inFlow }.dropKey
  return s.forward1.push .key

/-- A `:` in front of a value. If a key may have begun before it, the tokens of the key go there. -/
def valueMark (s : Scanner) : Option Scanner :=
  match s.possibleKey with
  | some k =>
    let s := { s with possibleKey := none }.pushAt k.tokens .key
    let s := if s.inFlow then s else s.openBlock k.column k.tokens .blockMappingStart
    some ({ s with keyAllowed := false }.forward1.push .value)
  | none => do
    let s ← { ← s.openHere .blockMappingStart with keyAllowed := !s.inFlow }.dropKey
    return s.forward1.push .value

def quotedToken (s : Scanner) (double : Bool) : Except ReadError Scanner := do
  let s := { ← wellFormed s.saveKey with keyAllowed := false }
  let (text, s) ← s.forward1.quotedScalar double [] (2 * s.rest.length)
  return s.push (.quoted text)

/-- A block scalar. A key may begin on the line behind it. -/
def blockToken (s : Scanner) (folds : Bool) : Option Scanner := do
  let s ← { s with keyAllowed := true }.dropKey
  let (text, s) ← s.blockScalar folds
  return s.push (.quoted text)

/-- The one tag that is read. -/
def binaryTagText : Text := "!!binary".toList

/-- A tag. A key may begin with it. -/
def tagToken (s : Scanner) : Option Scanner := do
  let s := { ← s.saveKey with keyAllowed := false }
  let rest := s.rest.drop binaryTagText.length
  if binaryTagText.isPrefixOf s.rest ∧ atGap rest ∧ rest.head? ≠ some '\t' then
    (s.forward binaryTagText.length).push .binaryTag
  else none

def plainToken (s : Scanner) : Option Scanner := do
  let s := { ← s.saveKey with keyAllowed := false }
  let (text, s) := s.plainScalar [] [] s.rest.length
  return s.push (.plain text)

/-- Characters that begin something else than a plain scalar. -/
def indicators : List Char := "-?:,[]\x7b\x7d#&*!|>'\"%@".toList ++ [Char.ofNat 0x60]

/-- Whether a plain scalar begins here. -/
def startsPlain (flow : Bool) : Text → Bool
  | [] => false
  | c :: rest =>
    (!atGap (c :: rest) && !indicators.contains c) ||
      (!atGap rest && (c == '-' || (!flow && (c == '?' || c == ':'))))

/-- The state after the next token; the second part says whether the text ended. -/
def next (s : Scanner) : Except ReadError (Scanner × Bool) := do
  let s ← wellFormed (s.skipGap (s.rest.length + 1)).dropStaleKeys
  let s := s.unwindTo s.column
  let more (r : Option Scanner) : Except ReadError (Scanner × Bool) := return (← wellFormed r, false)
  match s.rest with
  | [] => return (← wellFormed (s.unwindTo (-1)).dropKey, true)
  | c :: rest =>
    if s.column = 0 ∧ atDocumentMark s.rest then
      more (s.documentMark (if c = '-' then .documentStart else .documentEnd))
    else if c = '[' then more (s.flowStart .flowSequenceStart)
    else if c = '\x7b' then more (s.flowStart .flowMappingStart)
    else if c = ']' then more (s.flowEnd .flowSequenceEnd)
    else if c = '\x7d' then more (s.flowEnd .flowMappingEnd)
    else if c = ',' then more s.flowEntry
    else if c = '-' ∧ atGap rest then more s.blockEntry
    else if c = '?' ∧ (s.inFlow ∨ atGap rest) then more s.keyMark
    else if c = ':' ∧ (s.inFlow ∨ atGap rest) then more s.valueMark
    else if c = '!' then more s.tagToken
    else if c = '|' ∧ !s.inFlow then more (s.blockToken false)
    else if c = '>' ∧ !s.inFlow then more (s.blockToken true)
    else if c = '\'' then return (← s.quotedToken false, false)
    else if c = '"' then return (← s.quotedToken true, false)
    else if startsPlain s.inFlow s.rest then more s.plainToken
    else throw .malformed

/-- All tokens up to the end of the text, or up to where it cannot be read: what is read of it is what no
possible key can change any more. Every step takes at least one character. -/
def run (s : Scanner) : Nat → Except ReadError (List Token)
  | 0 => .error .malformed
  | fuel + 1 =>
    match s.next with
    | .ok (s, true) => .ok s.tokens.reverse
    | .ok (s, false) => run s fuel
    | .error .malformed => .error .malformed
    | .error (.refused cause) => .ok (s.tokens.reverse.take s.settled ++ [.broken cause])

end Scanner

/-- The tokens of a text. A leading byte order mark does not count. -/
def Token.scan (text : Text) : Except ReadError (List Token) :=
  let body := if text.head? == some '\ufeff' then text.drop 1 else text
  if text.all isAllowed then Scanner.run { rest := body } (body.length + 2) else .error .malformed

end ScriptCoverage.Yaml
