/-!
# Blanks

The blank characters of Unicode, and trimming. Addresses are trimmed of all of them; numerals keep the
information separators of ASCII, which no numeral can hold.
-/

namespace ScriptCoverage

/-- The information separators of ASCII. -/
def isSeparator (c : Char) : Bool := 0x1c ≤ c.toNat && c.toNat ≤ 0x1f

/-- Blanks, tabulators, line ends and separators of Unicode. -/
def isBlank (c : Char) : Bool :=
  let n := c.toNat
  c == ' ' || (9 ≤ n && n ≤ 13) || isSeparator c || n == 0x85 || n == 0xa0 || n == 0x1680 ||
    (0x2000 ≤ n && n ≤ 0x200a) || n == 0x2028 || n == 0x2029 || n == 0x202f || n == 0x205f || n == 0x3000

/-- The text without the characters of a class at either end. -/
def trimEnds (drop : Char → Bool) (cs : List Char) : List Char :=
  ((cs.dropWhile drop).reverse.dropWhile drop).reverse

end ScriptCoverage
