import ScriptCoverage.Text.Slice

/-!
# Lines

A line ends at a line feed, a carriage return, or the pair of them; each terminator ends exactly one
line, so blank lines are kept and a text has one line more than terminators.
-/

namespace ScriptCoverage.Text

/-- Puts a character in front of the first line. -/
def consLine (c : Char) : List Text → List Text
  | [] => [[c]]
  | line :: rest => (c :: line) :: rest

/-- The lines of a text, without their terminators. -/
def lines : Text → List Text
  | [] => [[]]
  | '\r' :: '\n' :: rest => [] :: lines rest
  | c :: rest => if c = '\r' ∨ c = '\n' then [] :: lines rest else consLine c (lines rest)

/-- Characters at which a text that is shown breaks into lines. -/
def breaksShown (c : Char) : Bool := "\n\r\x0b\x0c\x1c\x1d\x1e\x85\u2028\u2029".toList.contains c

/-- The lines of a text that is shown. Behind the last terminator there is a line only if it holds something. -/
def shownLines : Text → List Text
  | [] => []
  | '\r' :: '\n' :: rest => [] :: shownLines rest
  | c :: rest => if breaksShown c then [] :: shownLines rest else consLine c (shownLines rest)

/-- The text with every line terminator written as a line feed. -/
def unifyLineEnds : Text → Text
  | [] => []
  | '\r' :: '\n' :: rest => '\n' :: unifyLineEnds rest
  | c :: rest => (if c = '\r' then '\n' else c) :: unifyLineEnds rest

end ScriptCoverage.Text
