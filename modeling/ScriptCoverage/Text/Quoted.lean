import ScriptCoverage.Text.Printable

/-!
# Quoted text

Messages quote names and values. The quote is `'`, or `"` where the text holds `'` and no `"`; inside,
the backslash and the quote are escaped, line feed, carriage return and tab have their letters, and
any other character that is not printable is written by its code point.
-/

namespace ScriptCoverage.Quoted

/-- The quote for a text with these characters. -/
def quoteFor (cs : List Char) : Char :=
  if cs.contains '\'' && !cs.contains '"' then '"' else '\''

/-- The lowest `width` hexadecimal digits of a number. -/
def hexDigits (width n : Nat) : List Char :=
  let digits := Nat.toDigits 16 n
  List.replicate (width - digits.length) '0' ++ digits

/-- A code point in the shortest of the three escapes that holds it. -/
def codeEscape (n : Nat) : List Char :=
  if n < 0x100 then '\\' :: 'x' :: hexDigits 2 n
  else if n < 0x10000 then '\\' :: 'u' :: hexDigits 4 n
  else '\\' :: 'U' :: hexDigits 8 n

/-- One character between quotes `quote`; `shown` decides which characters stand for themselves. -/
def escape (shown : Char → Bool) (quote c : Char) : List Char :=
  if c = '\\' ∨ c = quote then ['\\', c]
  else if c = '\n' then ['\\', 'n']
  else if c = '\r' then ['\\', 'r']
  else if c = '\t' then ['\\', 't']
  else if shown c then [c]
  else codeEscape c.toNat

/-- The text between quotes. -/
def chars (shown : Char → Bool) (cs : List Char) : List Char :=
  let quote := quoteFor cs
  quote :: cs.flatMap (escape shown quote) ++ [quote]

/-- A text as messages quote it. -/
def text (s : String) : String := String.ofList (chars isPrintable s.toList)

/-- A byte string: bytes outside printable ASCII are written in hexadecimal. -/
def bytes (bs : List UInt8) : String :=
  let shown (c : Char) : Bool := 0x20 ≤ c.toNat && c.toNat < 0x7f
  String.ofList ('b' :: chars shown (bs.map fun b => Char.ofNat b.toNat))

end ScriptCoverage.Quoted
