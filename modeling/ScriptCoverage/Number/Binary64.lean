/-!
# Binary64 numbers

Percentages, thresholds and timeouts are binary64 numbers, and a coverage gate turns on their last
bit. Every finite binary64 magnitude is a whole number of units of `2 ^ (-1074)`, so a finite number
is a sign and a natural number of units: order and equality are those of `Nat`, and the only step
that rounds is `roundUnits`, which keeps 53 significant bits and lets a tie go to the even
neighbour. Everything here is exact arithmetic on naturals; no machine float takes part.
-/

namespace ScriptCoverage

/-- A binary64 number. Zero keeps its sign. A NaN carries a payload, which tells NaNs of different origin
apart; no arithmetic looks at it. -/
inductive Binary64 where
  | nan (payload : Nat)
  | infinite (negative : Bool)
  | finite (negative : Bool) (units : Nat)
  deriving DecidableEq, Repr, Inhabited

/-- The quotient `num / den` to the nearest natural number; a tie goes to the even one. -/
def roundDiv (num den : Nat) : Nat :=
  let quotient := num / den
  let rest := num % den
  if 2 * rest < den then quotient
  else if den < 2 * rest then quotient + 1
  else quotient + quotient % 2

namespace Binary64

/-- Units in the number one. -/
def one : Nat := Nat.pow 2 1074

/-- The least magnitude, in units, that no finite number has: `2 ^ 1024`. -/
def limit : Nat := Nat.pow 2 2098

/-- Distance between neighbouring numbers at a magnitude of `units`: 53 bits are kept. -/
def spacing (units : Nat) : Nat := Nat.pow 2 (units.log2 - 52)

/-- The magnitude nearest to `num / den` units, ignoring the upper end of the range. -/
def roundUnits (num den : Nat) : Nat :=
  let step := spacing (num / den)
  roundDiv num (den * step) * step

/-- The number nearest to `± num / den` units; beyond the range it is infinite. -/
def ofUnits (negative : Bool) (num den : Nat) : Binary64 :=
  let units := roundUnits num den
  if units < limit then finite negative units else infinite negative

/-- The number nearest to `± num / den`. -/
def ofRatio (negative : Bool) (num den : Nat) : Binary64 :=
  ofUnits negative (num * one) den

/-- The number nearest to an integer, infinite when the integer is out of range. -/
def ofInt (i : Int) : Binary64 :=
  ofRatio (decide (i < 0)) i.natAbs 1

def zero : Binary64 := finite false 0

def isFinite : Binary64 → Bool
  | finite _ _ => true
  | _ => false

/-- The quotient of two integers, rounded once, infinite when it is out of range. The divisor is not zero. -/
def quotient (num den : Int) : Binary64 :=
  ofRatio (decide (num < 0) != decide (den < 0)) num.natAbs den.natAbs

/-- The product with a natural number, rounded once. -/
def scale (factor : Nat) : Binary64 → Binary64
  | finite negative units => ofUnits negative (units * factor) 1
  | x => x

/-- A finite number as an integer count of units. -/
def signedUnits (negative : Bool) (units : Nat) : Int :=
  if negative then -(units : Int) else units

def negate : Binary64 → Binary64
  | finite negative units => finite (!negative) units
  | infinite negative => infinite !negative
  | nan payload => nan payload

/-- The sum, rounded once. A sum of zero is negative only if both parts are. -/
def add : Binary64 → Binary64 → Binary64
  | nan payload, _ => nan payload
  | _, nan payload => nan payload
  | infinite s, infinite t => if s = t then infinite s else nan 0
  | infinite s, _ => infinite s
  | _, infinite t => infinite t
  | finite s m, finite t n =>
    let sum := signedUnits s m + signedUnits t n
    if sum = 0 then finite (s && t) 0 else ofUnits (decide (sum < 0)) sum.natAbs 1

/-- `x ≤ y` as numbers: the zeros are equal and a NaN is never comparable. -/
def le : Binary64 → Binary64 → Bool
  | nan _, _ => false
  | _, nan _ => false
  | infinite true, _ => true
  | _, infinite false => true
  | infinite false, _ => false
  | _, infinite true => false
  | finite s m, finite t n => decide (signedUnits s m ≤ signedUnits t n)

/-- `x < y` as numbers. -/
def lt : Binary64 → Binary64 → Bool
  | nan _, _ => false
  | _, nan _ => false
  | x, y => !le y x

/-- `i ≤ x`, comparing the integer exactly. -/
def intLe (i : Int) : Binary64 → Bool
  | nan _ => false
  | infinite negative => !negative
  | finite s m => decide (i * one ≤ signedUnits s m)

/-- `x ≤ i`, comparing the integer exactly. -/
def leInt (x : Binary64) (i : Int) : Bool :=
  match x with
  | nan _ => false
  | infinite negative => negative
  | finite s m => decide (signedUnits s m ≤ i * one)

/-- The integer that a finite number equals, if it equals one. -/
def toInt? : Binary64 → Option Int
  | finite s m => if m % one = 0 then some (signedUnits s (m / one)) else none
  | _ => none

/-- The integer part of a finite number; the fraction is dropped. -/
def truncate? : Binary64 → Option Int
  | finite s m => some (signedUnits s (m / one))
  | _ => none

/-- The number nearest to `x` rounded to `places` decimals; ties of the exact value go to the even digit. -/
def roundPlaces (places : Nat) : Binary64 → Binary64
  | finite s m => ofRatio s (roundDiv (m * Nat.pow 10 places) one) (Nat.pow 10 places)
  | x => x

end Binary64

end ScriptCoverage
