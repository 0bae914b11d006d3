import ScriptCoverage.Number.Decimal
import ScriptCoverage.Text.Base64
import ScriptCoverage.Yaml.Plain
import ScriptCoverage.Yaml.Scan

/-!
# Writing scalars

A scalar is written without quotes if it reads back as itself that way. Single quotes serve every other
text of printable ASCII and line feeds, double quotes the rest, with escapes. A long scalar continues
on further lines: it is folded at a blank, or in double quotes behind a backslash, once a line is full.
Bytes are written in base 64, as a block of lines behind a tag.
-/

namespace ScriptCoverage.Yaml

/-- The column after which a line is full. -/
def fullColumn : Nat := 80

/-- A line feed and the indentation of the line after it. -/
def newline (indent : Nat) : Text := '\n' :: List.replicate indent ' '

/-- Characters at which a text breaks into lines. -/
def breaksLine (c : Char) : Bool := c == '\n' || c == '\x85' || c == '\u2028' || c == '\u2029'

def isPlainAscii (c : Char) : Bool := ' ' ≤ c && c ≤ '~'

/-- How a scalar is delimited. -/
inductive ScalarStyle where
  | plain
  | single
  | double
  deriving DecidableEq, Repr

namespace ScalarStyle

/-- Characters that no plain scalar starts with. -/
def isIndicator (c : Char) : Bool := "#,[]\x7b\x7d&*!|>'\"%@`".toList.contains c

/-- Whether a colon before a blank or the end, or a `#` behind a blank, occurs behind the first character. -/
def hasInnerIndicator : Text → Bool
  | a :: b :: rest =>
    (a == ' ' && b == '#') || (b == ':' && atGap rest) || hasInnerIndicator (b :: rest)
  | _ => false

/-- Whether a reader of the text without quotes would take a part of it for punctuation. -/
def hasIndicator (cs : Text) : Bool :=
  match cs with
  | [] => false
  | c :: rest =>
    isIndicator c || ((c == '?' || c == ':' || c == '-') && atGap rest) ||
      cs.take 3 == ['-', '-', '-'] || cs.take 3 == ['.', '.', '.'] || hasInnerIndicator cs

/-- Whether a blank and a line feed are neighbours. -/
def blankMeetsBreak : Text → Bool
  | a :: b :: rest => (a == ' ' && b == '\n') || (a == '\n' && b == ' ') || blankMeetsBreak (b :: rest)
  | _ => false

/-- The style of a text. -/
def ofText (cs : Text) : ScalarStyle :=
  let outerBlank := cs.head? == some ' ' || cs.getLast? == some ' '
  if cs.all isPlainAscii && !outerBlank && !hasIndicator cs && PlainForm.ofText cs == .text then plain
  else if cs.all (fun c => isPlainAscii c || c == '\n') && !blankMeetsBreak cs then single
  else double

end ScalarStyle

/-- The letter that escapes a character in double quotes, for those that have one. -/
def escapeLetter? : Char → Option Char
  | '\x00' => some '0'
  | '\x07' => some 'a'
  | '\x08' => some 'b'
  | '\x09' => some 't'
  | '\x0a' => some 'n'
  | '\x0b' => some 'v'
  | '\x0c' => some 'f'
  | '\x0d' => some 'r'
  | '\x1b' => some 'e'
  | '"' => some '"'
  | '\\' => some '\\'
  | '\x85' => some 'N'
  | '\xa0' => some '_'
  | '\u2028' => some 'L'
  | '\u2029' => some 'P'
  | _ => none

def upperHex (digits n : Nat) : Text := (Quoted.hexDigits digits n).map Char.toUpper

/-- The escape of a character in double quotes; most of printable ASCII stands for itself. -/
def escape? (c : Char) : Option Text :=
  match escapeLetter? c with
  | some letter => some ['\\', letter]
  | none =>
    let n := c.toNat
    if isPlainAscii c then none
    else if n < 0x100 then some ('\\' :: 'x' :: upperHex 2 n)
    else if n < 0x10000 then some ('\\' :: 'u' :: upperHex 4 n)
    else some ('\\' :: 'U' :: upperHex 8 n)

/-- The rest of a scalar without escapes, from `column` on, behind blanks or line feeds not written yet.
A single blank where the line is full becomes the end of a line; a line feed is written twice. -/
def foldAtBlanks (spell : Char → Text) (indent : Nat) : (column blanks breaks : Nat) → Text → Text
  | _, blanks, breaks, [] =>
    (if breaks = 0 then [] else List.replicate breaks '\n' ++ newline indent) ++ List.replicate blanks ' '
  | column, blanks, breaks, c :: rest =>
    if c = ' ' then foldAtBlanks spell indent column (blanks + 1) breaks rest
    else if c = '\n' then List.replicate blanks ' ' ++ foldAtBlanks spell indent column 0 (breaks + 1) rest
    else
      let written := spell c
      if 0 < breaks then
        List.replicate breaks '\n' ++ newline indent ++ List.replicate blanks ' ' ++ written ++
          foldAtBlanks spell indent (indent + blanks + written.length) 0 0 rest
      else if blanks = 1 ∧ fullColumn < column then
        newline indent ++ written ++ foldAtBlanks spell indent (indent + written.length) 0 0 rest
      else
        List.replicate blanks ' ' ++ written ++
          foldAtBlanks spell indent (column + blanks + written.length) 0 0 rest

/-- The rest of a scalar in double quotes, from `column` on. A line that is full ends in a backslash, at
a blank or beside an escape; a blank that starts a line is escaped too. The first and the last character
stay with their quotes. -/
def foldEscaped (indent : Nat) : (column : Nat) → (first behindEscape : Bool) → Text → Text
  | _, _, _, [] => []
  | column, first, behindEscape, c :: rest =>
    let inner := !first && !rest.isEmpty
    match escape? c with
    | some written =>
      if inner && fullColumn + 1 < column + written.length then
        let guard : Text := if rest.head? = some ' ' then ['\\'] else []
        written ++ '\\' :: newline indent ++ guard ++
          foldEscaped indent (indent + guard.length) false true rest
      else written ++ foldEscaped indent (column + written.length) false true rest
    | none =>
      if inner && (c == ' ' || behindEscape) && fullColumn < column then
        let guard : Text := if c = ' ' then ['\\'] else []
        '\\' :: newline indent ++ guard ++ c ::
          foldEscaped indent (indent + guard.length + 1) false false rest
      else c :: foldEscaped indent (column + 1) false false rest

/-- A single quote is written twice inside single quotes. -/
def doubleQuote (c : Char) : Text := if c = '\'' then ['\'', '\''] else [c]

/-- Numbers in YAML documents: `1.0e+16`, `.inf`, `.nan`. -/
def numberStyle : NumberStyle := ⟨".inf", ".nan", true⟩

/-- A scalar without its quotes or its tag. -/
def contentOf : Scalar → Text
  | .null => "null".toList
  | .bool true => "true".toList
  | .bool false => "false".toList
  | .int i => (toString i).toList
  | .float x => (x.styled numberStyle).toList
  | .text s => s.toList
  | .bytes bs => (Base64.lines bs).flatMap (· ++ ['\n'])
  | .date d => d.text.toList
  | .dateTime t => t.text.toList

/-- The style of a scalar on its line. Only texts ever need quotes. -/
def styleOf : Scalar → ScalarStyle
  | .text s => .ofText s.toList
  | _ => .plain

/-- The tag of a scalar, which counts for the length of a key. -/
def tagOf : Scalar → String
  | .null => "!!null"
  | .bool _ => "!!bool"
  | .int _ => "!!int"
  | .float _ => "!!float"
  | .text _ => "!!str"
  | .bytes _ => "!!binary"
  | .date _ => "!!timestamp"
  | .dateTime _ => "!!timestamp"

/-- Whether a scalar can be a key on one line with its colon: it is not empty, not broken into lines and
not too long. -/
def isSimpleKey (s : Scalar) : Bool :=
  let content := contentOf s
  !content.isEmpty && !content.any breaksLine && (tagOf s).length + content.length < 128

/-- A key on one line. -/
def writeKey (s : Scalar) : Text :=
  let content := contentOf s
  match styleOf s with
  | .plain => content
  | .single => '\'' :: content.flatMap doubleQuote ++ ['\'']
  | .double => '"' :: content.flatMap (fun c => (escape? c).getD [c]) ++ ['"']

/-- A scalar that starts at `column` and continues on lines of the given indentation. -/
def writeScalar (indent column : Nat) (s : Scalar) : Text :=
  let content := contentOf s
  match s, styleOf s with
  | .bytes [], _ => (tagOf s).toList ++ " ''".toList
  | .bytes bs, _ => (tagOf s).toList ++ " |".toList ++ (Base64.lines bs).flatMap (newline indent ++ ·)
  | _, .plain => foldAtBlanks (fun c => [c]) indent column 0 0 content
  | _, .single =>
    let blanks := content.takeWhile (· = ' ')
    '\'' :: blanks ++
      foldAtBlanks doubleQuote indent (column + 1 + blanks.length) 0 0 (content.drop blanks.length) ++ ['\'']
  | _, .double => '"' :: foldEscaped indent (column + 1) true false content ++ ['"']

end ScriptCoverage.Yaml
