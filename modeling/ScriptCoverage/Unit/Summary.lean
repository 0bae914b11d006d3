import ScriptCoverage.Unit.Basic
import ScriptCoverage.Value.Conversion

/-!
# Coverage summaries

The percentage is the quotient of two counts, rounded to a binary64 number, times a hundred, rounded
again; a source without units is fully covered.

Specification: sections 3 and 4.4, `CoverageSummary` and the report aggregator.
-/

namespace ScriptCoverage

/-- How many units there are and how many of them ran. -/
structure Summary where
  total : Int := 0
  executed : Int := 0
  deriving DecidableEq, Repr

namespace Summary

/-- The summary of units. -/
def ofUnits (units : List CoverableUnit) : Summary :=
  { total := units.length, executed := units.countP CoverableUnit.executed }

/-- The executed share of the units. -/
def share (s : Summary) : Binary64 :=
  if s.total = 0 then Binary64.ofInt 1 else Binary64.quotient s.executed s.total

/-- The coverage percentage, `100.0` when there is nothing to cover. -/
def percentage (s : Summary) : Binary64 := s.share.scale 100

/-- The coverage percentage; a share beyond the range of numbers is refused. -/
def checkedPercentage (s : Summary) : Except Fault Binary64 :=
  if s.share.isFinite then .ok s.percentage else .error .overflow

/-- Whether the percentage reaches a threshold. -/
def passed (s : Summary) (threshold : Binary64) : Bool := threshold.le s.percentage

/-- Whether the percentage reaches a threshold given as any number, compared exactly. -/
def passedValue (s : Summary) (threshold : Value) : Except Fault Bool := do
  let percentage ← s.checkedPercentage
  match threshold with
  | .float x => .ok (x.le percentage)
  | .int i => .ok (Binary64.intLe i percentage)
  | .bool b => .ok (Binary64.intLe (if b then 1 else 0) percentage)
  | _ => .error .wrongType

/-- The percentage to two decimals, as reports state it. -/
def roundedPercentage (s : Summary) : Binary64 := s.percentage.roundPlaces 2

end Summary

end ScriptCoverage
