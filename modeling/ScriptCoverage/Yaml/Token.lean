import ScriptCoverage.Session.Library
import ScriptCoverage.Value.Conversion

/-!
# YAML tokens

A YAML text is read as tokens. Indentation becomes explicit: a token opens each block collection, and
`blockEnd` closes it where a line is indented less. Whether a scalar is a key is known only at the `:`
behind it, so the scanner remembers where a key may have begun and puts the tokens of the key there
later. This module has the tokens and the moves of the scanner.
-/

namespace ScriptCoverage.Yaml

inductive Token where
  | documentStart
  | documentEnd
  | blockSequenceStart
  | blockMappingStart
  | blockEnd
  | blockEntry
  | key
  | value
  | flowSequenceStart
  | flowSequenceEnd
  | flowMappingStart
  | flowMappingEnd
  | flowEntry
  | plain (text : Text)
  /-- A scalar that is a text whatever it spells. -/
  | quoted (text : Text)
  /-- The tag of a scalar that spells bytes. -/
  | binaryTag
  /-- The text cannot be read from here on. -/
  | broken (cause : LibraryError)
  deriving DecidableEq, Repr

/-- Why a text is no document with a value: its form, or a part that stands for no value. -/
inductive ReadError where
  | malformed
  | refused (cause : LibraryError)
  deriving DecidableEq, Repr

namespace ReadError

/-- A part whose form is right but whose value is impossible. -/
def noValue (text : String) : ReadError := .refused ⟨"ValueError", text⟩

/-- A number that is beyond what its reader can count. -/
def overflow : ReadError := .refused ⟨"OverflowError", Fault.overflow.label⟩

end ReadError

/-- Characters that end a line. -/
def isBreak (c : Char) : Bool :=
  c == '\n' || c == '\r' || c == '\x85' || c == '\u2028' || c == '\u2029'

/-- Whether the text ends here, or a blank or a line end follows. -/
def atGap : Text → Bool
  | [] => true
  | c :: _ => c == ' ' || c == '\t' || isBreak c

/-- Whether a line that starts here is a document mark. -/
def atDocumentMark (rest : Text) : Bool :=
  (rest.take 3 == ['-', '-', '-'] || rest.take 3 == ['.', '.', '.']) && atGap (rest.drop 3)

/-- Characters that a YAML text may hold. -/
def isAllowed (c : Char) : Bool :=
  let n := c.toNat
  n == 0x9 || n == 0xa || n == 0xd || (0x20 ≤ n && n ≤ 0x7e) || n == 0x85 ||
    (0xa0 ≤ n && n ≤ 0xfffd) || 0x10000 ≤ n

/-- A place where a key may have begun. -/
structure KeyStart where
  /-- How many tokens came before it. -/
  tokens : Nat
  /-- Whether nothing but a key can stand there. -/
  required : Bool
  index : Nat
  line : Nat
  column : Nat

/-- The state of scanning: the text ahead and its position, the open block collections, the open flow
collections with a possible key each, and the tokens so far, the last one first. -/
structure Scanner where
  rest : Text
  index : Nat := 0
  line : Nat := 0
  column : Nat := 0
  /-- The column of the innermost block collection, `-1` outside of all, and those around it. -/
  indent : Int := -1
  outerIndents : List Int := []
  /-- Whether a key may begin here without a mark. -/
  keyAllowed : Bool := true
  /-- The possible key of the innermost collection, and of the flow collections around it. -/
  possibleKey : Option KeyStart := none
  outerKeys : List (Option KeyStart) := []
  tokens : List Token := []

namespace Scanner

def inFlow (s : Scanner) : Bool := !s.outerKeys.isEmpty

/-- Moves over one character. A byte order mark takes no column. -/
def forward1 (s : Scanner) : Scanner :=
  match s.rest with
  | [] => s
  | c :: rest =>
    if isBreak c && !(c == '\r' && rest.head? == some '\n') then
      { s with rest, index := s.index + 1, line := s.line + 1, column := 0 }
    else { s with rest, index := s.index + 1, column := if c == '\ufeff' then s.column else s.column + 1 }

def forward (s : Scanner) : Nat → Scanner
  | 0 => s
  | n + 1 => s.forward1.forward n

/-- Moves over characters of a class. -/
def forwardWhile (p : Char → Bool) (s : Scanner) : Scanner := s.forward (s.rest.takeWhile p).length

def push (s : Scanner) (t : Token) : Scanner := { s with tokens := t :: s.tokens }

/-- Puts a token behind the first `position` ones. -/
def pushAt (s : Scanner) (position : Nat) (t : Token) : Scanner :=
  { s with tokens := s.tokens.insertIdx (s.tokens.length - position) t }

/-- Moves over a line end. The result is what it counts as in a scalar. -/
def lineBreak (s : Scanner) : Text × Scanner :=
  match s.rest with
  | '\r' :: '\n' :: _ => (['\n'], s.forward 2)
  | c :: _ => (if c == '\u2028' || c == '\u2029' then [c] else ['\n'], s.forward 1)
  | [] => ([], s)

/-- Moves over blanks, comments and line ends in front of a token. Outside flow collections a key may
begin on every new line. -/
def skipGap (s : Scanner) : Nat → Scanner
  | 0 => s
  | fuel + 1 =>
    let s := s.forwardWhile (· == ' ')
    let s := if s.rest.head? == some '#' then s.forwardWhile (fun c => !isBreak c) else s
    if s.rest.head?.any isBreak then
      let s := s.lineBreak.2
      skipGap (if s.inFlow then s else { s with keyAllowed := true }) fuel
    else s

/-- Forgets the possible key here; one that had to be a key is an error. -/
def dropKey (s : Scanner) : Option Scanner :=
  match s.possibleKey with
  | some k => if k.required then none else some { s with possibleKey := none }
  | none => some s

/-- Whether a possible key can still be one: it is on this line and not too far back. -/
def isFresh (s : Scanner) (k : KeyStart) : Bool := k.line == s.line && s.index ≤ k.index + 1024

/-- Forgets the possible keys that can be none any more. -/
def dropStaleKeys (s : Scanner) : Option Scanner :=
  let stale (k : Option KeyStart) : Bool := k.any fun k => !s.isFresh k
  if (s.possibleKey :: s.outerKeys).any fun k => stale k && k.any (·.required) then none
  else
    let kept (k : Option KeyStart) := if stale k then none else k
    some { s with possibleKey := kept s.possibleKey, outerKeys := s.outerKeys.map kept }

/-- Remembers that a key may begin here. -/
def saveKey (s : Scanner) : Option Scanner :=
  if s.keyAllowed then do
    let s ← s.dropKey
    let key : KeyStart := ⟨s.tokens.length, !s.inFlow && s.indent == s.column, s.index, s.line, s.column⟩
    return { s with possibleKey := some key }
  else some s

/-- Closes the block collections that are indented deeper than a column. -/
def unwind (s : Scanner) (column : Int) : Nat → Scanner
  | 0 => s
  | fuel + 1 =>
    if !s.inFlow && column < s.indent then
      unwind { s.push .blockEnd with
        indent := s.outerIndents.headD (-1), outerIndents := s.outerIndents.tail } column fuel
    else s

/-- Closes the block collections that are indented deeper than a column. -/
def unwindTo (s : Scanner) (column : Int) : Scanner := s.unwind column s.outerIndents.length

/-- Opens a block collection at a column if that is deeper than the innermost one. -/
def openBlock (s : Scanner) (column : Nat) (position : Nat) (t : Token) : Scanner :=
  if s.indent < column then
    { s.pushAt position t with indent := column, outerIndents := s.indent :: s.outerIndents }
  else s

/-- How many tokens are settled: no possible key can still put tokens in front of them. -/
def settled (s : Scanner) : Nat :=
  let keys := ((s.possibleKey :: s.outerKeys).filterMap id).filter s.isFresh
  (keys.map (·.tokens)).foldl min s.tokens.length

end Scanner

end ScriptCoverage.Yaml
