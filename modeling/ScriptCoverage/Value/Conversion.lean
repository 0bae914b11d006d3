import ScriptCoverage.Number.Numeral
import ScriptCoverage.Value.Shown

/-!
# Reading values as numbers, and writing them

A setting may give a number as a number or as a numeral. `Value.toFloat` and `Value.toInt` accept
both and say why any other value is refused. Integers of very many digits are neither read nor written
in base ten.
-/

namespace ScriptCoverage

/-- A misuse of a value. It has a kind but no text of its own. -/
inductive Fault where
  | wrongType
  | missingKey
  | badIndex
  | missingAttribute
  | overflow
  deriving DecidableEq, Repr

/-- What stands for the text of a fault in a message. -/
def Fault.label : Fault → String
  | wrongType => "<TypeError>"
  | missingKey => "<KeyError>"
  | badIndex => "<IndexError>"
  | missingAttribute => "<AttributeError>"
  | overflow => "<OverflowError>"

/-- Why a value cannot be converted. A refused numeral is kept as it is shown. -/
inductive ConversionError where
  | noInteger (base : Nat) (shown : String)
  /-- A numeral has too many digits to be read. -/
  | tooManyDigits (digits : Nat)
  /-- An integer has too many digits to be written. -/
  | tooLongToWrite
  | noFloat (shown : String)
  | notNumeric (kindName : String)
  | integerOfNaN
  | fault (f : Fault)
  deriving DecidableEq, Repr

namespace ConversionError

/-- How messages name the limit on digits. -/
def limitText : String := s!"Exceeds the limit ({Numeral.maxDigits} digits) for integer string conversion"

/-- How messages say that the limit can be moved. -/
def limitHint : String := "; use sys.set_int_max_str_digits() to increase the limit"

def message : ConversionError → String
  | noInteger base shown => s!"invalid literal for int() with base {base}: {shown}"
  | tooManyDigits digits => s!"{limitText}: value has {digits} digits{limitHint}"
  | tooLongToWrite => limitText ++ limitHint
  | noFloat shown => s!"could not convert string to float: {shown}"
  | notNumeric kindName => s!"float() argument must be a string or a real number, not '{kindName}'"
  | integerOfNaN => "cannot convert float NaN to integer"
  | fault f => f.label

/-- How much of a refused numeral is shown. -/
def shownLength : Nat := 200

/-- Why a numeral is no integer in base ten. -/
def ofIntegerFault (shown : String) : Numeral.IntegerFault → ConversionError
  | .malformed => noInteger 10 (String.ofList (shown.toList.take shownLength))
  | .tooLong digits => tooManyDigits digits

end ConversionError

namespace Value

/-- The text that a byte string spells if all its bytes are ASCII. -/
def asciiText? (bs : List UInt8) : Option String :=
  if bs.all (·.toNat < 0x80) then some (String.ofList (bs.map fun b => Char.ofNat b.toNat)) else none

/-- The characters of a byte string, with `?`, which no numeral holds, for the bytes beyond ASCII. -/
def byteText (bs : List UInt8) : List Char :=
  bs.map fun b => if b.toNat < 0x80 then Char.ofNat b.toNat else '?'

/-- The name of a value's kind with the library that it comes from, which the built-in kinds do not have. -/
def qualifiedName : Value → String
  | .scalar (.date d) => s!"datetime.{(Scalar.date d).kindName}"
  | .scalar (.dateTime t) => s!"datetime.{(Scalar.dateTime t).kindName}"
  | v => v.kindName

/-- The value as a binary64 number. An integer beyond the range is refused, a numeral is infinite there. -/
def toFloat : Value → Except ConversionError Binary64
  | .float x => .ok x
  | .int i =>
    let x := Binary64.ofInt i
    if x.isFinite then .ok x else .error (.fault .overflow)
  | .bool b => .ok (Binary64.ofInt (if b then 1 else 0))
  | .text s => match Numeral.readFloat s with
    | some x => .ok x
    | none => .error (.noFloat (Quoted.text s))
  | .bytes bs => match (asciiText? bs).bind Numeral.readFloat with
    | some x => .ok x
    | none => .error (.noFloat (Quoted.bytes bs))
  | v => .error (.notNumeric v.qualifiedName)

/-- The value as an integer. The fraction of a number is dropped. -/
def toInt : Value → Except ConversionError Int
  | .int i => .ok i
  | .bool b => .ok (if b then 1 else 0)
  | .float x => match x.truncate? with
    | some i => .ok i
    | none => .error (match x with
      | .nan _ => .integerOfNaN
      | _ => .fault .overflow)
  | .text s => (Numeral.readInt s.toList).mapError (.ofIntegerFault (Quoted.text s))
  | .bytes bs => (Numeral.readInt (byteText bs)).mapError
      (.ofIntegerFault (Quoted.bytes (bs.take ConversionError.shownLength)))
  | _ => .error (.fault .wrongType)

/-- `i ≤ v` for a numeric value, compared exactly; `none` if the value is no number. -/
def intLe? (i : Int) : Value → Option Bool
  | .int j => some (decide (i ≤ j))
  | .bool b => some (decide (i ≤ if b then 1 else 0))
  | .float x => some (Binary64.intLe i x)
  | _ => none

/-- `v ≤ i` for a numeric value, compared exactly; `none` if the value is no number. -/
def leInt? (v : Value) (i : Int) : Option Bool :=
  match v with
  | .int j => some (decide (j ≤ i))
  | .bool b => some (decide ((if b then 1 else 0) ≤ i))
  | .float x => some (x.leInt i)
  | _ => none

end Value

/-- Whether a scalar can be written: an integer has a limited number of digits. -/
def Scalar.isWritable : Scalar → Bool
  | .int i => i.natAbs < Nat.pow 10 Numeral.maxDigits
  | _ => true

namespace Value

mutual

/-- Whether everything in a value can be written. -/
def isWritable : Value → Bool
  | .scalar s => s.isWritable
  | .list items => areWritable items
  | .tuple items => areWritable items
  | .set members => members.all Scalar.isWritable
  | .mapping entries => entriesWritable entries
  | .object _ => true
  | .atom => true

def areWritable : List Value → Bool
  | [] => true
  | item :: rest => item.isWritable && areWritable rest

def entriesWritable : List (Scalar × Value) → Bool
  | [] => true
  | (key, value) :: rest => key.isWritable && value.isWritable && entriesWritable rest

end

/-- The value as messages spell it, if it can be written. -/
def checkedLiteral (v : Value) : Except ConversionError String :=
  if v.isWritable then .ok v.literal else .error .tooLongToWrite

/-- The value in running text, if it can be written. -/
def checkedDisplay (v : Value) : Except ConversionError String :=
  if v.isWritable then .ok v.display else .error .tooLongToWrite

end Value

end ScriptCoverage
