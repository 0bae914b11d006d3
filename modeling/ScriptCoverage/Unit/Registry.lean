import ScriptCoverage.Unit.Basic
import ScriptCoverage.Value.Conversion

/-!
# The registry of a run

A registry owns the units of one source text. Ids are positions: they are dense, start at zero, and are
given in order of registration, so every run has its own id space.

Specification: sections 2 and 3, the coverable-unit registry.
-/

namespace ScriptCoverage

/-- The units found in one source text, in order of registration. -/
structure Registry where
  source : Text
  units : List CoverableUnit := []

/-- A probe or a caller named a unit that the registry does not hold. -/
structure UnknownUnit where
  /-- The id as messages show it. -/
  shown : String
  size : Nat
  deriving DecidableEq, Repr

def UnknownUnit.message (e : UnknownUnit) : String :=
  s!"Unknown coverable unit id {e.shown} (registry holds {e.size} units)"

/-- Why an id gives no unit. -/
inductive IdError where
  | unknown (cause : UnknownUnit)
  /-- The id names no unit, and cannot be written into the refusal either. -/
  | unwritable (cause : ConversionError)
  deriving DecidableEq, Repr

/-- The refusal of the id, if it could be worded. -/
def IdError.unknownUnit? : IdError → Option UnknownUnit
  | unknown cause => some cause
  | unwritable _ => none

namespace Registry

def size (r : Registry) : Nat := r.units.length

/-- Registers a range that is not empty, under the next id. -/
def add (r : Registry) (span : Span) (kind : UnitKind) (shape : NodeKind) (isExpression : Bool)
    (nonempty : span.start < span.stop) : CoverableUnit × Registry :=
  let unit : CoverableUnit :=
    { id := r.size, start := span.start, stop := span.stop, kind, shape, isExpression,
      code := r.source.slice span.start span.stop, nonempty }
  (unit, { r with units := r.units ++ [unit] })

/-- Registers a range; an empty one leaves the registry as it is. -/
def register (r : Registry) (span : Span) (kind : UnitKind) (shape : NodeKind) (isExpression : Bool) :
    Except EmptyRange (CoverableUnit × Registry) :=
  if h : span.start < span.stop then .ok (r.add span kind shape isExpression h)
  else .error ⟨r.size, span.start, span.stop⟩

/-- The position that an id names: only an integer names one. -/
def position? (r : Registry) : Value → Option Nat
  | .int i => if 0 ≤ i ∧ i < r.size then some i.toNat else none
  | _ => none

/-- The refusal of an id that names no unit. Its text shows the id, which fails if an integer in it is too long
to be written. -/
def refusal (r : Registry) (id : Value) : IdError :=
  match id.checkedLiteral with
  | .ok shown => .unknown ⟨shown, r.size⟩
  | .error cause => .unwritable cause

/-- The unit with an id. -/
def get (r : Registry) (id : Value) : Except IdError CoverableUnit :=
  match (r.position? id).bind (r.units[·]?) with
  | some unit => .ok unit
  | none => .error (r.refusal id)

/-- Counts one execution of the unit at a position. -/
def count (r : Registry) (position : Nat) : Registry :=
  { r with units := r.units.modify position CoverableUnit.countExecution }

/-- The units in source order; units that start together keep their order of registration. -/
def sorted (units : List CoverableUnit) : List CoverableUnit :=
  units.mergeSort fun u v => decide (u.start ≤ v.start)

end Registry

end ScriptCoverage
