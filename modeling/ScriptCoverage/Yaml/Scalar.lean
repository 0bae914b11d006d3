import ScriptCoverage.Yaml.Token

/-!
# Scalars in YAML texts

A scalar is plain, quoted, or a block of lines. A plain or quoted scalar may go on over several lines,
whose ends count as blanks; a block keeps its lines, or folds them in the same manner. An escape that
stands for no character is an error of its own, because the text is well formed there.
-/

namespace ScriptCoverage.Yaml.Scanner

/-- The length of the plain text ahead on this line: it ends at a blank, at a `:` before a gap and, in a
flow collection, at an indicator. -/
def plainLength (flow : Bool) : Text → Nat
  | [] => 0
  | c :: rest =>
    if atGap (c :: rest) then 0
    else if c = ':' ∧ (atGap rest ∨ (flow ∧ rest.head?.any (",[]\x7b\x7d".toList.contains ·))) then 0
    else if flow ∧ ",?[]\x7b\x7d".toList.contains c then 0
    else plainLength flow rest + 1

/-- The line ends ahead, with blanks between them, as they count in a plain scalar; nothing if a
document mark follows one of them. -/
def plainBreaks (s : Scanner) : Nat → Option Text × Scanner
  | 0 => (some [], s)
  | fuel + 1 =>
    match s.rest with
    | ' ' :: _ => plainBreaks s.forward1 fuel
    | c :: _ =>
      if isBreak c then
        let (line, s) := s.lineBreak
        if atDocumentMark s.rest then (none, s)
        else
          let (more, s) := plainBreaks s fuel
          (more.map (line ++ ·), s)
      else (some [], s)
    | [] => (some [], s)

/-- What one line end and further ones count as between two lines of a scalar: a single plain one is a
blank, of more the first does not count. -/
def folded (first more : Text) : Text :=
  if first ≠ ['\n'] then first ++ more else if more.isEmpty then [' '] else more

/-- The blanks and line ends after plain text, as they count if the scalar goes on; nothing if it cannot. -/
def plainGap (s : Scanner) : Text × Scanner :=
  let blanks := s.rest.takeWhile (· == ' ')
  let s := s.forward blanks.length
  if s.rest.head?.any isBreak then
    let (first, s) := s.lineBreak
    let s := { s with keyAllowed := true }
    if atDocumentMark s.rest then ([], s)
    else match s.plainBreaks s.rest.length with
      | (some more, s) => (folded first more, s)
      | (none, s) => ([], s)
  else (blanks, s)

/-- The rest of a plain scalar, of which `text` was read and `gap` counts if it goes on. -/
def plainScalar (text gap : Text) (s : Scanner) : Nat → Text × Scanner
  | 0 => (text, s)
  | fuel + 1 =>
    let length := plainLength s.inFlow s.rest
    if s.rest.head? == some '#' || length == 0 then (text, s)
    else
      let text := text ++ gap ++ s.rest.take length
      let (gap, s) := { s.forward length with keyAllowed := false }.plainGap
      let ended := !s.inFlow && (s.column : Int) < s.indent + 1
      if gap.isEmpty || s.rest.head? == some '#' || ended then (text, s)
      else plainScalar text gap s fuel

/-! ## Quoted scalars -/

/-- The characters that a letter after a backslash stands for. -/
def escapes : List (Char × Char) :=
  [('0', '\x00'), ('a', '\x07'), ('b', '\x08'), ('t', '\t'), ('\t', '\t'), ('n', '\n'), ('v', '\x0b'),
   ('f', '\x0c'), ('r', '\r'), ('e', '\x1b'), (' ', ' '), ('"', '"'), ('\\', '\\'), ('/', '/'),
   ('N', '\x85'), ('_', '\xa0'), ('L', '\u2028'), ('P', '\u2029')]

/-- The number of hexadecimal digits after a backslash and a letter. -/
def escapeWidth : Char → Option Nat
  | 'x' => some 2
  | 'u' => some 4
  | 'U' => some 8
  | _ => none

def hexValue? (c : Char) : Option Nat :=
  if c.isDigit then some (c.toNat - '0'.toNat)
  else if 'a' ≤ c ∧ c ≤ 'f' then some (c.toNat - 'a'.toNat + 10)
  else if 'A' ≤ c ∧ c ≤ 'F' then some (c.toNat - 'A'.toNat + 10)
  else none

/-- A code point in hexadecimal digits, and how many digits it has. The text starts behind the backslash. -/
def codeEscape? : Text → Option (Nat × Nat)
  | [] => none
  | letter :: rest => do
    let width ← escapeWidth letter
    let values ← (rest.take width).mapM hexValue?
    if values.length = width then some (values.foldl (fun code value => code * 16 + value) 0, width)
    else none

/-- Whether a code point is one half of a character beyond the first plane: the first or the second half. -/
def isHalf (second : Bool) (code : Nat) : Bool :=
  if second then 0xdc00 ≤ code && code < 0xe000 else 0xd800 ≤ code && code < 0xdc00

/-- The character of a code point. There is none beyond the last one; a half alone is unreadable. -/
def charOf (code : Nat) : Except ReadError Char :=
  if 0x80000000 ≤ code then .error .overflow
  else if 0x110000 ≤ code then .error (.noValue "chr() arg not in range(0x110000)")
  else .ok (if code.isValidChar then Char.ofNat code else '\ufffd')

/-- The character that an escape by code point stands for, and the length of the escape. The text starts
behind the backslash. Two halves that follow one another are one character. -/
def escapedChar (text : Text) : Except ReadError (Char × Nat) :=
  match codeEscape? text with
  | none => .error .malformed
  | some (code, width) =>
    let single : Except ReadError (Char × Nat) := return (← charOf code, width + 1)
    match text.drop (width + 1) with
    | '\\' :: more => match codeEscape? more with
      | some (next, nextWidth) =>
        if isHalf false code && isHalf true next then
          .ok (Char.ofNat (0x10000 + (code - 0xd800) * 0x400 + (next - 0xdc00)), width + nextWidth + 3)
        else single
      | none => single
    | _ => single

/-- What is missing is an error of form. -/
def wellFormed {α : Type} : Option α → Except ReadError α
  | some a => .ok a
  | none => .error .malformed

/-- The line ends ahead in a quoted scalar, with blanks around them. A document mark is an error. -/
def quotedBreaks (s : Scanner) : Nat → Option (Text × Scanner)
  | 0 => none
  | fuel + 1 =>
    if atDocumentMark s.rest then none
    else
      let s := s.forwardWhile fun c => c == ' ' || c == '\t'
      if s.rest.head?.any isBreak then do
        let (line, s) := s.lineBreak
        let (more, s) ← quotedBreaks s fuel
        return (line ++ more, s)
      else some ([], s)

/-- The rest of a quoted scalar, its closing quote included. -/
def quotedScalar (double : Bool) (text : Text) (s : Scanner) : Nat → Except ReadError (Text × Scanner)
  | 0 => .error .malformed
  | fuel + 1 =>
    match s.rest with
    | [] => .error .malformed
    | '\'' :: '\'' :: _ =>
      if double then quotedScalar double (text ++ ['\'']) s.forward1 fuel
      else quotedScalar double (text ++ ['\'']) (s.forward 2) fuel
    | '\'' :: _ =>
      if double then quotedScalar double (text ++ ['\'']) s.forward1 fuel else .ok (text, s.forward1)
    | '"' :: _ =>
      if double then .ok (text, s.forward1) else quotedScalar double (text ++ ['"']) s.forward1 fuel
    | '\\' :: c :: rest =>
      if !double then quotedScalar double (text ++ ['\\']) s.forward1 fuel
      else if isBreak c then do
        let (breaks, s) ← wellFormed ((s.forward 1).lineBreak.2.quotedBreaks fuel)
        quotedScalar double (text ++ breaks) s fuel
      else match escapes.lookup c with
        | some d => quotedScalar double (text ++ [d]) (s.forward 2) fuel
        | none => do
          let (d, length) ← escapedChar (c :: rest)
          quotedScalar double (text ++ [d]) (s.forward (1 + length)) fuel
    | c :: _ =>
      if c == ' ' || c == '\t' || isBreak c then
        let blanks := s.rest.takeWhile fun c => c == ' ' || c == '\t'
        let s := s.forward blanks.length
        if s.rest.isEmpty then .error .malformed
        else if s.rest.head?.any isBreak then do
          let (first, s) := s.lineBreak
          let (more, s) ← wellFormed (s.quotedBreaks fuel)
          quotedScalar double (text ++ folded first more) s fuel
        else quotedScalar double (text ++ blanks) s fuel
      else quotedScalar double (text ++ [c]) s.forward1 fuel

/-! ## Block scalars -/

/-- Which of the line ends at the end of a block scalar count: none, the first, or all. -/
inductive Chomping where
  | strip
  | clip
  | keep
  deriving DecidableEq, Repr

def chomping? : Char → Option Chomping
  | '-' => some .strip
  | '+' => some .keep
  | _ => none

def increment? (c : Char) : Option Nat := if c.isDigit then some (c.toNat - '0'.toNat) else none

/-- The indicators behind a `|` or `>`, which may come in either order, and how many they are. -/
def blockIndicators (cs : Text) : Chomping × Option Nat × Nat :=
  let first := cs.head?
  let second := (cs.drop 1).head?
  match first.bind chomping?, first.bind increment? with
  | some chomping, _ => match second.bind increment? with
    | some increment => (chomping, some increment, 2)
    | none => (chomping, none, 1)
  | none, some increment => match second.bind chomping? with
    | some chomping => (chomping, some increment, 2)
    | none => (.clip, some increment, 1)
  | none, none => (.clip, none, 0)

/-- Moves over the rest of a header: blanks, and a comment behind one of them. -/
def headerEnd (s : Scanner) : Option Scanner :=
  if s.rest.head?.any fun c => c != ' ' && !isBreak c then none
  else
    let s := s.forwardWhile (· == ' ')
    let s := if s.rest.head? == some '#' then s.forwardWhile (fun c => !isBreak c) else s
    if s.rest.head?.any fun c => !isBreak c then none else some s.lineBreak.2

/-- The empty lines ahead, and the widest indentation among them and the line behind them. -/
def blockIndentation (s : Scanner) (breaks : Text) (widest : Nat) : Nat → Text × Nat × Scanner
  | 0 => (breaks, widest, s)
  | fuel + 1 =>
    if s.rest.head? == some ' ' then
      let s := s.forward1
      blockIndentation s breaks (max widest s.column) fuel
    else if s.rest.head?.any isBreak then
      let (line, s) := s.lineBreak
      blockIndentation s (breaks ++ line) widest fuel
    else (breaks, widest, s)

/-- The empty lines ahead, and the indentation of the line behind them up to a column. -/
def blockBreaks (indent : Nat) (s : Scanner) (breaks : Text) : Nat → Text × Scanner
  | 0 => (breaks, s)
  | fuel + 1 =>
    let blanks := (s.rest.takeWhile (· == ' ')).length
    let s := s.forward (min blanks (indent - s.column))
    if s.rest.head?.any isBreak then
      let (line, s) := s.lineBreak
      blockBreaks indent s (breaks ++ line) fuel
    else (breaks, s)

/-- Whether a line starts with a blank. -/
def startsBlank (rest : Text) : Bool := rest.head?.any fun c => c == ' ' || c == '\t'

/-- The lines of a block scalar behind `text`, with the line ends behind the last one. A folded scalar
joins two lines by a blank if neither starts with one. -/
def blockLines (folds : Bool) (indent : Nat) (text breaks : Text) (s : Scanner) :
    Nat → Text × Text × Text × Scanner
  | 0 => (text, [], breaks, s)
  | fuel + 1 =>
    let line := s.rest.takeWhile fun c => !isBreak c
    let text := text ++ breaks ++ line
    let (ending, next) := (s.forward line.length).lineBreak
    let (breaks, next) := next.blockBreaks indent [] (next.rest.length + 1)
    if next.column == indent && !next.rest.isEmpty then
      let joint :=
        if folds && ending == ['\n'] && !startsBlank s.rest && !startsBlank next.rest then
          if breaks.isEmpty then [' '] else []
        else ending
      blockLines folds indent (text ++ joint) breaks next fuel
    else (text, ending, breaks, next)

/-- A block scalar, from its `|` or `>` on. -/
def blockScalar (folds : Bool) (s : Scanner) : Option (Text × Scanner) := do
  let s := s.forward1
  let (chomping, increment, length) := blockIndicators s.rest
  if increment = some 0 then none
  let s ← (s.forward length).headerEnd
  let least := (max (s.indent + 1) 1).toNat
  let fuel := s.rest.length + 1
  let (breaks, indent, s) := match increment with
    | some increment =>
      let indent := least + increment - 1
      let (breaks, s) := s.blockBreaks indent [] fuel
      (breaks, indent, s)
    | none =>
      let (breaks, widest, s) := s.blockIndentation [] 0 fuel
      (breaks, max least widest, s)
  let (text, ending, breaks, s) :=
    if s.column == indent && !s.rest.isEmpty then s.blockLines folds indent [] breaks fuel
    else ([], [], breaks, s)
  let last := if chomping = .strip then [] else ending
  return (text ++ last ++ if chomping = .keep then breaks else [], s)

end ScriptCoverage.Yaml.Scanner
