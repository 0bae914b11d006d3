import ScriptCoverage.Unit.Basic
import ScriptCoverage.Value.Conversion

/-!
# Units as open records

Whoever holds a unit may give its fields values of any kind, and add fields of their own. Only the identity
and the range of a unit are fixed. A `UnitRecord` keeps the unit as it was made and beside it what it was
given since, so that nothing given to a record reaches the identity of its unit. A value that a field
cannot have shows only when the field is used.

Specification: section 3, `CoverableUnit`, for holders that write to its fields.
-/

namespace ScriptCoverage

/-- A unit and the values that its fields were given. -/
structure UnitRecord where
  unit : CoverableUnit
  given : Mapping Value := []

/-- Why a field cannot be given a value. -/
inductive AssignError where
  | readOnly (field : String)
  /-- The field follows from others. -/
  | derived (field : String)
  deriving DecidableEq, Repr

def AssignError.message : AssignError → String
  | readOnly field => s!"CoverableUnit.{field} is read-only"
  | derived _ => Fault.missingAttribute.label

namespace Value

/-- Whether a numeric value is positive; `none` if the value is no number. -/
def isPositive? : Value → Option Bool
  | .int i => some (decide (0 < i))
  | .bool b => some b
  | .float x => some (Binary64.zero.lt x)
  | _ => none

/-- A numeric value and one more. -/
def successor : Value → Except Fault Value
  | .int i => .ok (.int (i + 1))
  | .bool b => .ok (.int (if b then 2 else 1))
  | .float x => .ok (.float (x.add (Binary64.ofInt 1)))
  | _ => .error .wrongType

/-- Whether a value equals a scalar. -/
def equals (v : Value) (s : Scalar) : Bool :=
  match v with
  | .scalar own => own.key == s.key
  | _ => false

end Value

namespace UnitRecord

/-- The fields that are fixed when a unit is made. -/
def fixedFields : List String := ["id", "range_start", "range_end"]

/-- The fields that follow from others. -/
def derivedFields : List String := ["executed", "opens_with_delimiter"]

/-- Gives a field a value. -/
def assign (r : UnitRecord) (field : String) (value : Value) : Except AssignError UnitRecord :=
  if fixedFields.contains field then .error (.readOnly field)
  else if derivedFields.contains field then .error (.derived field)
  else .ok { r with given := r.given.insert (.text field) value }

/-- The value that a field was given, or its own. -/
def field (r : UnitRecord) (name : String) (own : Scalar) : Value :=
  (r.given.get? name).getD (.scalar own)

def executionCount (r : UnitRecord) : Value := r.field "execution_count" (.int r.unit.executionCount)

def isExpression (r : UnitRecord) : Value := r.field "is_expression" (.bool r.unit.isExpression)

def code (r : UnitRecord) : Value := r.field "source_slice" (.text (String.ofList r.unit.code))

def kind (r : UnitRecord) : Value := r.field "kind" (.text r.unit.kind.name)

def shape (r : UnitRecord) : Value := r.field "syntax" (.text r.unit.shape.name)

/-- Whether the unit ran at least once. -/
def executed (r : UnitRecord) : Except Fault Bool :=
  match r.executionCount.isPositive? with
  | some positive => .ok positive
  | none => .error .wrongType

/-- Whether the unit's text opens with a brace. A shape that was given is not trusted. -/
def opensWithDelimiter (r : UnitRecord) : Bool :=
  (r.given.get? "syntax").isNone && r.unit.opensWithDelimiter

/-- Counts one execution. A field of the name of this step takes its place and cannot be carried out. -/
def countExecution (r : UnitRecord) : Except Fault UnitRecord :=
  if (r.given.get? "count_execution").isSome then .error .wrongType
  else return { r with given := r.given.insert (.text "execution_count") (← r.executionCount.successor) }

/-- Whether a record equals a unit, whatever their counts. -/
def same (r : UnitRecord) (u : CoverableUnit) : Bool :=
  r.unit.id == u.id && r.unit.start == u.start && r.unit.stop == u.stop &&
    r.kind.equals (.text u.kind.name) && r.shape.equals (.text u.shape.name) &&
    r.isExpression.equals (.bool u.isExpression) && r.code.equals (.text (String.ofList u.code))

/-- The name that a field of the unit's own vocabulary stands for. A value that was given has one only if it
is an object that carries it. -/
def nameOf (r : UnitRecord) (field : String) (own : Value) : Except Fault Value :=
  match r.given.get? field with
  | none => .ok own
  | some (.object attributes) => match Mapping.get? attributes "value" with
    | some name => .ok name
    | none => .error .missingAttribute
  | some _ => .error .missingAttribute

/-- The record as entries. A field of the name of this step takes its place and cannot be carried out. -/
def describe (r : UnitRecord) : Except Fault (List (String × Value)) :=
  if (r.given.get? "to_dict").isSome then .error .wrongType
  else do
    let kind ← r.nameOf "kind" r.kind
    let shape ← r.nameOf "syntax" r.shape
    return [("id", .int r.unit.id), ("kind", kind), ("syntax", shape),
      ("range", .list [.int r.unit.start, .int r.unit.stop]), ("expression", r.isExpression),
      ("execution_count", r.executionCount), ("code", r.code)]

end UnitRecord

end ScriptCoverage
