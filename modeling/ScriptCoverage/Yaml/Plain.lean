import ScriptCoverage.Number.Numeral
import ScriptCoverage.Yaml.Token

/-!
# Plain scalars

A YAML scalar without quotes is a null, a truth value, a number, a date or a text, by its spelling. Two
spellings have a meaning only as keys. A spelling can be that of a number or a date that does not exist.
-/

namespace ScriptCoverage.Yaml

/-- What the spelling of a plain scalar makes it. -/
inductive PlainForm where
  | null
  | bool
  | int
  | float
  /-- The key whose value is taken over into the mapping that it stands in. -/
  | merge
  /-- A sign that is a text as a key, and nothing else. -/
  | equalSign
  | timestamp
  | text
  deriving DecidableEq, Repr

namespace PlainForm

def nullWords : List String := ["", "~", "null", "Null", "NULL"]

def trueWords : List String := ["yes", "Yes", "YES", "true", "True", "TRUE", "on", "On", "ON"]

def falseWords : List String := ["no", "No", "NO", "false", "False", "FALSE", "off", "Off", "OFF"]

/-- The text without a leading sign. -/
def unsigned (cs : List Char) : List Char := (Numeral.splitSign cs).2

def isDigitOrGap (c : Char) : Bool := c.isDigit || c == '_'

def isHexOrGap (c : Char) : Bool :=
  isDigitOrGap c || ('a' ≤ c && c ≤ 'f') || ('A' ≤ c && c ≤ 'F')

/-- Whether a text is nonempty and all of its characters are of a class. -/
def some? (p : Char → Bool) (cs : List Char) : Bool := !cs.isEmpty && cs.all p

/-- An integer without sign in base two, eight, ten or sixteen. -/
def isMagnitude : List Char → Bool
  | '0' :: 'b' :: rest => some? (fun c => c == '0' || c == '1' || c == '_') rest
  | '0' :: 'x' :: rest => some? isHexOrGap rest
  | ['0'] => true
  | '0' :: rest => some? (fun c => ('0' ≤ c && c ≤ '7') || c == '_') rest
  | c :: rest => c.isDigit && rest.all isDigitOrGap
  | [] => false

/-- An exponent with its sign, or nothing. -/
def isExponent : List Char → Bool
  | [] => true
  | mark :: sign :: digits =>
    (mark == 'e' || mark == 'E') && (sign == '+' || sign == '-') && some? Char.isDigit digits
  | _ => false

/-- Digits and gaps, and then an exponent or nothing. -/
def isFraction (cs : List Char) : Bool := isExponent (cs.dropWhile isDigitOrGap)

/-- A number with a decimal point. A number that starts with the point has no sign. -/
def isPointed (cs : List Char) : Bool :=
  let body := unsigned cs
  match body with
  | '.' :: c :: rest => body.length == cs.length && c.isDigit && isFraction (c :: rest)
  | c :: _ =>
    c.isDigit && match body.dropWhile isDigitOrGap with
      | '.' :: rest => isFraction rest
      | _ => false
  | [] => false

def infinityWords : List String := [".inf", ".Inf", ".INF"]

def nanWords : List String := [".nan", ".NaN", ".NAN"]

/-- One or more places in base sixty, each after a colon, and a final point and digits if `pointed`. -/
def isSixties (pointed : Bool) : Nat → List Char → Bool
  | 0, _ => false
  | fuel + 1, ':' :: rest =>
    let digits := rest.takeWhile Char.isDigit
    let after := rest.drop digits.length
    let place := match digits with
      | [_] => true
      | [d, _] => d ≤ '5'
      | _ => false
    place && match after with
      | [] => !pointed
      | '.' :: fraction => pointed && fraction.all isDigitOrGap
      | _ => isSixties pointed fuel after
  | _, _ => false

/-- A whole number in base sixty, which starts with a digit other than zero. -/
def isSixtiesInt (cs : List Char) : Bool :=
  match unsigned cs with
  | c :: rest => c.isDigit && c != '0' && isSixties false cs.length (rest.dropWhile isDigitOrGap)
  | [] => false

/-- A number in base sixty with a decimal point. -/
def isSixtiesFloat (cs : List Char) : Bool :=
  match unsigned cs with
  | c :: rest => c.isDigit && isSixties true cs.length (rest.dropWhile isDigitOrGap)
  | [] => false

/-- Between one and two digits, and the rest. -/
def oneOrTwoDigits (cs : List Char) : Option (List Char) :=
  match cs.takeWhile Char.isDigit with
  | [_] => some (cs.drop 1)
  | [_, _] => some (cs.drop 2)
  | _ => none

def twoDigits (cs : List Char) : Option (List Char) :=
  match cs with
  | a :: b :: rest => if a.isDigit && b.isDigit then some rest else none
  | _ => none

/-- The character `c`, and the rest. -/
def skip (c : Char) : List Char → Option (List Char)
  | d :: rest => if d = c then some rest else none
  | [] => none

/-- A time zone after optional blanks, or nothing. -/
def isZone (cs : List Char) : Bool :=
  match cs.dropWhile fun c => c == ' ' || c == '\t' with
  | [] => cs.isEmpty
  | ['Z'] => true
  | sign :: rest =>
    (sign == '+' || sign == '-') && match oneOrTwoDigits rest with
      | some [] => true
      | some (':' :: minutes) => twoDigits minutes == some []
      | _ => false

/-- A time of day, with an optional fraction of a second and time zone. -/
def isTime (cs : List Char) : Bool :=
  let rest := do
    let rest ← oneOrTwoDigits cs
    let rest ← twoDigits (← skip ':' rest)
    twoDigits (← skip ':' rest)
  match rest with
  | none => false
  | some ('.' :: fraction) => isZone (fraction.dropWhile Char.isDigit)
  | some rest => isZone rest

/-- A date, or a date and a time. -/
def isTimestamp (cs : List Char) : Bool :=
  let year := cs.take 4
  let shortDate := do
    let rest ← twoDigits (← skip '-' (cs.drop 4))
    twoDigits (← skip '-' rest)
  let longDate := do
    let rest ← oneOrTwoDigits (← skip '-' (cs.drop 4))
    oneOrTwoDigits (← skip '-' rest)
  let timed := match longDate with
    | some (c :: rest) =>
      if c == 'T' || c == 't' then isTime rest
      else (c == ' ' || c == '\t') && isTime (rest.dropWhile fun c => c == ' ' || c == '\t')
    | _ => false
  year.length == 4 && year.all Char.isDigit && (shortDate == some [] || timed)

/-- What a plain scalar is. -/
def ofText (cs : List Char) : PlainForm :=
  let word := String.ofList cs
  if nullWords.contains word then .null
  else if trueWords.contains word || falseWords.contains word then .bool
  else if isPointed cs || isSixtiesFloat cs || nanWords.contains word ||
      infinityWords.contains (String.ofList (unsigned cs)) then .float
  else if isMagnitude (unsigned cs) || isSixtiesInt cs then .int
  else if word == "<<" then .merge
  else if word == "=" then .equalSign
  else if isTimestamp cs then .timestamp
  else .text

end PlainForm

/-- The places of a number in base sixty. -/
def places (cs : List Char) : List (List Char) :=
  (String.ofList cs).splitToList (· == ':') |>.map String.toList

/-- The integer that a plain scalar of that form spells. A base without digits is refused, and so are very
many digits in base ten. -/
def readPlainInt (cs : List Char) : Except ConversionError Int :=
  let (negative, body) := Numeral.splitSign (cs.filter (· ≠ '_'))
  let signed (magnitude : Int) : Int := if negative then -magnitude else magnitude
  let inBase (base : Nat) (digits : List Char) : Except ConversionError Int :=
    if digits.isEmpty then .error (.noInteger base (Quoted.text ""))
    else .ok (signed (Numeral.digitsValue base digits))
  let inTen (digits : List Char) : Except ConversionError Int :=
    (Numeral.ofDigits false digits).mapError (.ofIntegerFault (Quoted.text (String.ofList digits)))
  match body with
  | '0' :: 'b' :: digits => inBase 2 digits
  | '0' :: 'x' :: digits => inBase 16 digits
  | ['0'] => .ok 0
  | '0' :: digits => inBase 8 digits
  | digits => return signed ((← (places digits).mapM inTen).foldl (fun value place => value * 60 + place) 0)

/-- The number that a plain scalar of that form spells. The places of a number in base sixty are added up
from the last one on. -/
def readPlainFloat (cs : List Char) : Binary64 :=
  let (negative, body) := Numeral.splitSign (cs.filter (· ≠ '_'))
  let word := String.ofList body
  let number (negative : Bool) (digits : List Char) : Binary64 :=
    (Numeral.decimal? negative digits).getD (.nan 0)
  if PlainForm.infinityWords.contains word then .infinite negative
  else if PlainForm.nanWords.contains word then .nan 0
  else match places body with
    | [digits] => number negative digits
    | digits =>
      let sum := (digits.reverse.zipIdx).foldl
        (fun sum (digits, i) => sum.add ((number false digits).scale (Nat.pow 60 i))) Binary64.zero
      if negative then sum.negate else sum

/-- The number at the front of a text, and what follows its digits. -/
def leadingNumber (cs : List Char) : Nat × List Char :=
  (Numeral.digitsValue 10 (cs.takeWhile Char.isDigit), cs.dropWhile Char.isDigit)

/-- Numbers that stand in a row, each behind one character. -/
def numbersBehind : Nat → List Char → List Nat × List Char
  | 0, cs => ([], cs)
  | count + 1, cs =>
    let (n, rest) := leadingNumber (cs.drop 1)
    let (more, rest) := numbersBehind count rest
    (n :: more, rest)

/-- The distance from universal time that a time zone spells, in minutes. -/
def readZone (cs : List Char) : Except ReadError (Option Int) :=
  match cs.dropWhile fun c => c == ' ' || c == '\t' with
  | [] => .ok none
  | ['Z'] => .ok (some 0)
  | sign :: rest =>
    let (hours, rest) := leadingNumber rest
    let distance : Int := 60 * hours + (leadingNumber (rest.drop 1)).1
    let minutes := if sign == '-' then -distance else distance
    if distance < 1440 then .ok (some minutes)
    else .error (.noValue ("offset must be a timedelta strictly between -timedelta(hours=24) and " ++
      s!"timedelta(hours=24), not {DateTime.distanceLiteral minutes}."))

/-- The microseconds that a fraction of a second spells. Further digits are dropped. -/
def readFraction (cs : List Char) : Nat × List Char :=
  match cs with
  | '.' :: rest =>
    let digits := (rest.takeWhile Char.isDigit).take 6
    (Numeral.digitsValue 10 (digits ++ List.replicate (6 - digits.length) '0'), rest.dropWhile Char.isDigit)
  | _ => (0, cs)

/-- The date with these numbers, or what is wrong with them. -/
def dateOf (year month day : Nat) : Except ReadError Date :=
  if year = 0 then .error (.noValue s!"year {year} is out of range")
  else if month = 0 ∨ 12 < month then .error (.noValue "month must be in 1..12")
  else match Date.ofCivil? year month day with
    | some date => .ok date
    | none => .error (.noValue "day is out of range for month")

/-- The date, or the date and time, that a plain scalar of that form spells. -/
def readTimestamp (cs : List Char) : Except ReadError Scalar := do
  let (year, rest) := leadingNumber cs
  let (monthDay, rest) := numbersBehind 2 rest
  let date := dateOf year (monthDay.getD 0 0) (monthDay.getD 1 0)
  if rest.isEmpty then return .date (← date)
  let (hour, rest) := leadingNumber (rest.dropWhile fun c => !c.isDigit)
  let (minuteSecond, rest) := numbersBehind 2 rest
  let (micros, rest) := readFraction rest
  let ahead ← readZone rest
  let date ← date
  let minute := minuteSecond.getD 0 0
  let second := minuteSecond.getD 1 0
  if 24 ≤ hour then throw (.noValue "hour must be in 0..23")
  if 60 ≤ minute then throw (.noValue "minute must be in 0..59")
  if 60 ≤ second then throw (.noValue "second must be in 0..59")
  let seconds := 60 * (60 * hour + minute) + second
  return .dateTime { clock := date.days * DateTime.day + (1000000 * seconds + micros : Nat), ahead }

/-- The value of a plain scalar. A spelling that has a meaning only as a key has no value. -/
def readPlain (cs : List Char) : Except ReadError Scalar :=
  match PlainForm.ofText cs with
  | .null => .ok .null
  | .bool => .ok (.bool (PlainForm.trueWords.contains (String.ofList cs)))
  | .int => ((readPlainInt cs).mapError fun e => .noValue e.message).map .int
  | .float => .ok (.float (readPlainFloat cs))
  | .merge | .equalSign => .error .malformed
  | .timestamp => readTimestamp cs
  | .text => .ok (.text (String.ofList cs))

end ScriptCoverage.Yaml
