import ScriptCoverage.Number.Decimal
import ScriptCoverage.Text.Blank
import ScriptCoverage.Text.DecimalDigit

/-!
# Reading numerals

Settings and node offsets may arrive as text. A numeral may stand between blanks, uses the decimal
digits of any script, and may group its digits by single underscores. `readFloat` rounds the exact
decimal value once; `readInt` is exact, and refuses numerals that are too long to be read in good time.
-/

namespace ScriptCoverage.Numeral

/-- The text with every digit written in ASCII. -/
def asciiDigits (cs : List Char) : List Char :=
  cs.map fun c => match digitValue? c with
    | some d => Char.ofNat ('0'.toNat + d)
    | none => c

/-- Every underscore stands between two digits. -/
def groupsDigits : (previous : Option Char) → List Char → Bool
  | _, [] => true
  | previous, '_' :: rest =>
    previous.any Char.isDigit && (rest.head?.any Char.isDigit) && groupsDigits (some '_') rest
  | _, c :: rest => groupsDigits (some c) rest

/-- The numeral without blanks and underscores, its digits in ASCII; `none` if an underscore is misplaced. -/
def plain? (cs : List Char) : Option (List Char) :=
  let written := asciiDigits (trimEnds (fun c => isBlank c && !isSeparator c) cs)
  if groupsDigits none written then some (written.filter (· != '_')) else none

/-- A leading sign, and the rest. -/
def splitSign : List Char → Bool × List Char
  | '-' :: rest => (true, rest)
  | '+' :: rest => (false, rest)
  | rest => (false, rest)

/-- The value of a string of ASCII digits in a base. -/
def digitsValue (base : Nat) (digits : List Char) : Nat :=
  digits.foldl (fun value c =>
    let digit := if c.isDigit then c.toNat - '0'.toNat else c.toLower.toNat - 'a'.toNat + 10
    value * base + digit) 0

/-- The exponent after an optional mark `e`; no exponent is zero. -/
def exponent? : List Char → Option Int
  | [] => some 0
  | mark :: rest =>
    let (negative, digits) := splitSign rest
    if mark.toLower == 'e' && !digits.isEmpty && digits.all Char.isDigit then
      some (if negative then -(digitsValue 10 digits : Int) else digitsValue 10 digits)
    else none

/-- The number nearest to `± coefficient * 10 ^ exponent`. Far exponents are settled without the power. -/
def ofDecimal (negative : Bool) (coefficient : Nat) (exponent : Int) : Binary64 :=
  let point := (decimalDigits coefficient).length + exponent
  if coefficient = 0 || point < -330 then .finite negative 0
  else if 310 < point then .infinite negative
  else
    let (num, den) := Decimal.power exponent
    .ofRatio negative (coefficient * num) den

/-- An unsigned decimal numeral: digits around an optional point, then an optional exponent. -/
def decimal? (negative : Bool) (cs : List Char) : Option Binary64 :=
  let whole := cs.takeWhile Char.isDigit
  let afterWhole := cs.dropWhile Char.isDigit
  let (fraction, rest) := match afterWhole with
    | '.' :: more => (more.takeWhile Char.isDigit, more.dropWhile Char.isDigit)
    | more => ([], more)
  if whole.isEmpty && fraction.isEmpty then none
  else (exponent? rest).map fun e =>
    ofDecimal negative (digitsValue 10 (whole ++ fraction)) (e - fraction.length)

/-- A number: a decimal numeral, an infinity or a NaN, in any case of letters. -/
def readFloat (text : String) : Option Binary64 := do
  let (negative, cs) := splitSign (← plain? text.toList)
  match String.ofList (cs.map Char.toLower) with
  | "inf" | "infinity" => some (.infinite negative)
  | "nan" => some (.nan 0)
  | _ => decimal? negative cs

/-- Why a text is no integer. -/
inductive IntegerFault where
  | malformed
  | tooLong (digits : Nat)
  deriving DecidableEq, Repr

/-- How many digits an integer may have in base ten, to be read or written. Settings and ids that are handed over
are checked against it where they are written (`Value.checkedLiteral`). The ids, positions and counts of a run are
written without a check: no text is long enough for a position of more digits, and no run for such a count. -/
def maxDigits : Nat := 4300

/-- The integer that ASCII digits spell in base ten, if they are not too many. -/
def ofDigits (negative : Bool) (digits : List Char) : Except IntegerFault Int :=
  if maxDigits < digits.length then .error (.tooLong digits.length)
  else .ok (if negative then -(digitsValue 10 digits : Int) else digitsValue 10 digits)

/-- A character of a numeral in ASCII. Other characters outside ASCII are no part of a numeral. -/
def asciiForm (c : Char) : Char :=
  if c.toNat < 0x80 then c
  else if isBlank c then ' '
  else (digitValue? c).elim '?' fun d => Char.ofNat ('0'.toNat + d)

/-- Blanks around a numeral in ASCII. -/
def isAsciiBlank (c : Char) : Bool := isBlank c && !isSeparator c && c.toNat < 0x80

/-- An integer in base ten. A numeral that is too long is refused before what stands behind it is looked
at; leading zeros count. -/
def readInt (text : List Char) : Except IntegerFault Int := do
  let (negative, body) := splitSign ((text.map asciiForm).dropWhile isAsciiBlank)
  let numeral := body.takeWhile fun c => c.isDigit || c == '_'
  if !groupsDigits none numeral then throw .malformed
  let value ← ofDigits negative (numeral.filter (· != '_'))
  if numeral.isEmpty || !(body.drop numeral.length).all isAsciiBlank then throw .malformed
  return value

end ScriptCoverage.Numeral
