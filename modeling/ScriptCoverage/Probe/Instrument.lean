import ScriptCoverage.Probe.Name
import ScriptCoverage.Unit.Basic

/-!
# Instrumentation

Instrumenting a script splices one probe in front of the body of every unit and changes nothing else: a
unit in expression form gets `probe(id) || `, whose falsy value falls through to the expression, every
other unit gets the statement `probe(id);`, and a block statement gets it behind its brace. The ledger
of insertions says where each probe went, in the source and in the instrumented text, and stripping
the probes gives the source back. Probes and refusals hold ids and offsets in base ten, which stands for
those of at most `Numeral.maxDigits` digits; no text has positions beyond.

Specification: sections 3 and 4.2, `InstrumentedSource` and the instrumenter.
-/

namespace ScriptCoverage

/-- One probe spliced into a script. -/
structure Insertion where
  unitId : Int
  /-- Where in the source the probe stands. -/
  sourceOffset : Int
  /-- Where in the instrumented text the probe starts. -/
  instrumentedOffset : Int
  probe : Text
  deriving DecidableEq

/-- A script with probes, and the insertions that made it, in order. -/
structure Instrumented where
  source : Text
  text : Text
  insertions : List Insertion := []
  deriving DecidableEq

/-- Why units cannot be instrumented. -/
inductive InstrumentError where
  | invalidName (name : String)
  | unsorted (id start previous : Int)
  | misplaced (point id : Int)
  deriving DecidableEq, Repr

/-- Removes the insertions from a text, reading on from position `cursor`. -/
def stripFrom (text : Text) (cursor : Int) : List Insertion → Text
  | [] => text.sliceFrom cursor
  | i :: rest =>
    text.slice cursor i.instrumentedOffset ++ stripFrom text (i.instrumentedOffset + i.probe.length) rest

/-- The text without its probes. -/
def Instrumented.strip (script : Instrumented) : Text := stripFrom script.text 0 script.insertions

namespace CoverableUnit

/-- The call that reports an execution of the unit, in the form that its place needs. -/
def probe (u : CoverableUnit) (name : String) : Text :=
  (s!"{name}({u.id})" ++ if u.isExpression then " || " else ";").toList

/-- Where the unit's probe goes: in front of its text, or behind its brace. -/
def insertionPoint (u : CoverableUnit) : Int := if u.opensWithDelimiter then u.start + 1 else u.start

end CoverableUnit

/-- Splices the probes of units into what follows `cursor` in the source. `previous` is the start of the
unit before, `offset` the length of the probes so far. -/
def splice (source : Text) (name : String) (cursor previous offset : Int) :
    List CoverableUnit → Except InstrumentError (Text × List Insertion)
  | [] => .ok (source.sliceFrom cursor, [])
  | u :: rest =>
    let point := u.insertionPoint
    if u.start < previous then .error (.unsorted u.id u.start previous)
    else if point < cursor ∨ (source.length : Int) < point then .error (.misplaced point u.id)
    else do
      let probe := u.probe name
      let (text, insertions) ← splice source name point u.start (offset + probe.length) rest
      .ok (source.slice cursor point ++ probe ++ text, ⟨u.id, point, point + offset, probe⟩ :: insertions)

/-- Splices a probe in front of the body of every unit. The units come in order of their starts, and
the name has to be a probe name. -/
def instrument (source : Text) (units : List CoverableUnit) (name : String) :
    Except InstrumentError Instrumented :=
  if Probe.isName name then do
    let (text, insertions) ← splice source name 0 (-1) 0 units
    .ok { source, text, insertions }
  else .error (.invalidName name)

end ScriptCoverage
