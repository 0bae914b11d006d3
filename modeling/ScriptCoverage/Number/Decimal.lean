import ScriptCoverage.Number.Binary64

/-!
# Decimal text of binary64 numbers

A number is written with the fewest significant digits that read back as the same number; of several
such texts the one nearest to the exact value is taken. `shortest` finds those digits on the decimal
grids of 1, 2, … 17 digits with exact arithmetic, `Binary64.text` lays them out, and
`Binary64.fixed` writes a fixed number of places instead.
-/

namespace ScriptCoverage

/-- The decimal digits of a natural number, most significant first. -/
def decimalDigits (n : Nat) : List Char := Nat.toDigits 10 n

/-- The positive number `coefficient * 10 ^ exponent`. -/
structure Decimal where
  coefficient : Nat
  exponent : Int
  deriving DecidableEq, Repr

namespace Decimal

/-- The power of ten `10 ^ e` as a pair numerator, denominator. -/
def power (e : Int) : Nat × Nat := (Nat.pow 10 e.toNat, Nat.pow 10 (-e).toNat)

/-- The position of the decimal point of `units`: the `p` with `10 ^ (p - 1) ≤ units / one < 10 ^ p`. -/
def pointOf (units : Nat) : Int :=
  if Binary64.one ≤ units then ((decimalDigits (units / Binary64.one)).length : Int)
  else 1 - ((decimalDigits ((Binary64.one - 1) / units)).length : Int)

/-- The ends, in quarters of a unit, of the interval of reals that round to `units`. -/
def roundingInterval (units : Nat) : Nat × Nat :=
  let above := Binary64.spacing units
  let below := if units = Nat.pow 2 52 * above && 1 < above then above / 2 else above
  (4 * units - 2 * below, 4 * units + 2 * above)

/-- Whether a decimal rounds to `units`. The ends of the interval do so iff the significand is even. -/
def roundsTo (units : Nat) (d : Decimal) : Bool :=
  let (low, high) := roundingInterval units
  let (num, den) := power d.exponent
  let place := 4 * (d.coefficient * num * Binary64.one)
  if units / Binary64.spacing units % 2 = 0 then
    decide (low * den ≤ place) && decide (place ≤ high * den)
  else decide (low * den < place) && decide (place < high * den)

/-- The grid point nearest to `units` among those with the given exponent that round to `units`. -/
def onGrid? (units : Nat) (exponent : Int) : Option Decimal :=
  let (num, den) := power exponent
  let below := units * den / (Binary64.one * num)
  let rest := units * den % (Binary64.one * num)
  let floor : Decimal := ⟨below, exponent⟩
  let ceiling : Decimal := ⟨below + 1, exponent⟩
  let nearFloor := decide (2 * rest < Binary64.one * num) ||
    (decide (2 * rest = Binary64.one * num) && below % 2 == 0)
  let ordered := if nearFloor then [floor, ceiling] else [ceiling, floor]
  ordered.find? (roundsTo units)

/-- The first grid, counted in significant digits from `digits` on, that has a point which reads back. -/
def search (units : Nat) (point : Int) : Nat → Nat → Decimal
  | 0, digits => ⟨(onGrid? units (point - digits)).elim 0 coefficient, point - digits⟩
  | more + 1, digits =>
    match onGrid? units (point - digits) with
    | some d => d
    | none => search units point more (digits + 1)

/-- The shortest decimal that reads back as the positive number of `units`. -/
def shortest (units : Nat) : Decimal := search units (pointOf units) 16 1

/-- The significant digits without trailing zeros, and the position of the point counted from their left. -/
def digits (d : Decimal) : List Char × Int :=
  let written := decimalDigits d.coefficient
  ((written.reverse.dropWhile (· == '0')).reverse, written.length + d.exponent)

end Decimal

/-- How a format spells the numbers that have no plain digits. -/
structure NumberStyle where
  infinity : String
  nan : String
  /-- Whether a single digit before an exponent is followed by `.0`. -/
  pointBeforeExponent : Bool

namespace Binary64

private def zeros (n : Int) : List Char := List.replicate n.toNat '0'

/-- Digits with the point after position `point`, at least one digit on either side of it. -/
def positional (digits : List Char) (point : Int) : List Char :=
  if point ≤ 0 then ['0', '.'] ++ zeros (-point) ++ digits
  else
    let whole := digits.take point.toNat ++ zeros (point - digits.length)
    let fraction := digits.drop point.toNat
    whole ++ '.' :: (if fraction.isEmpty then ['0'] else fraction)

/-- Digits in exponent notation, the exponent signed and of at least two digits. -/
def exponential (pointBeforeExponent : Bool) (digits : List Char) (point : Int) : List Char :=
  let exponent := point - 1
  let magnitude := decimalDigits exponent.natAbs
  let fraction := digits.drop 1
  let mantissa :=
    if fraction.isEmpty then digits ++ (if pointBeforeExponent then ['.', '0'] else [])
    else digits.take 1 ++ '.' :: fraction
  mantissa ++ 'e' :: (if exponent < 0 then '-' else '+') ::
    (if magnitude.length < 2 then '0' :: magnitude else magnitude)

/-- The text of a magnitude: positional from `0.0001` up to below `10 ^ 16`, else with an exponent. -/
def magnitudeText (pointBeforeExponent : Bool) (units : Nat) : List Char :=
  if units = 0 then ['0', '.', '0']
  else
    let (digits, point) := (Decimal.shortest units).digits
    if -4 < point && point ≤ 16 then positional digits point
    else exponential pointBeforeExponent digits point

def signText (negative : Bool) : List Char := if negative then ['-'] else []

/-- The shortest text that reads back as the number. -/
def styled (style : NumberStyle) : Binary64 → String
  | nan _ => style.nan
  | infinite negative => String.ofList (signText negative ++ style.infinity.toList)
  | finite negative units =>
    String.ofList (signText negative ++ magnitudeText style.pointBeforeExponent units)

/-- Numbers in messages and reports: `0.1`, `5.0`, `1e+16`, `inf`, `nan`. -/
def plainStyle : NumberStyle := ⟨"inf", "nan", false⟩

def text (x : Binary64) : String := x.styled plainStyle

/-- A magnitude with exactly `places` decimals; ties of the exact value go to the even digit. -/
def fixedMagnitude (places units : Nat) : List Char :=
  let scaled := roundDiv (units * Nat.pow 10 places) one
  let digits := decimalDigits scaled
  let padded := List.replicate (places + 1 - digits.length) '0' ++ digits
  let whole := padded.take (padded.length - places)
  if places = 0 then whole else whole ++ '.' :: padded.drop (padded.length - places)

/-- The number with exactly `places` decimals. -/
def fixed (places : Nat) : Binary64 → String
  | nan _ => "nan"
  | infinite negative => String.ofList (signText negative ++ ['i', 'n', 'f'])
  | finite negative units => String.ofList (signText negative ++ fixedMagnitude places units)

end Binary64

end ScriptCoverage
