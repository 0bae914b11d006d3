import ScriptCoverage.Text.Slice
import ScriptCoverage.Tree.Basic

/-!
# Coverable units

A coverable unit is a span of source text whose execution is tracked on its own. Its identity and its
range never change; running it moves only its execution count, and equality ignores that.

Specification: section 3, `CoverableUnit`.
-/

namespace ScriptCoverage

/-- Why a unit is tracked. -/
inductive UnitKind where
  | block
  | ternaryBranch
  | switchCase
  deriving DecidableEq, Repr, Inhabited

namespace UnitKind

def name : UnitKind → String
  | block => "block"
  | ternaryBranch => "ternary-branch"
  | switchCase => "switch-case"

/-- All kinds, in the order in which reports list them. -/
def all : List UnitKind := [block, ternaryBranch, switchCase]

theorem mem_all (kind : UnitKind) : kind ∈ all := by
  cases kind <;> simp [all]

theorem name_inj {kind other : UnitKind} : kind.name = other.name ↔ kind = other := by
  cases kind <;> cases other <;> decide

def ofName? (name : String) : Option UnitKind := all.find? (·.name == name)

end UnitKind

/-- A tracked span of source text. Its range is not empty. -/
structure CoverableUnit where
  id : Int
  start : Int
  stop : Int
  kind : UnitKind
  /-- The kind of the node that the unit's text is. -/
  shape : NodeKind
  /-- Whether the unit's text is an expression, so that its probe must be one too. -/
  isExpression : Bool := false
  /-- The unit's text. -/
  code : Text := []
  executionCount : Int := 0
  nonempty : start < stop := by omega
  deriving DecidableEq

/-- A unit was to be made of a range that holds no character. Its message shows positions of at most
`Numeral.maxDigits` digits. -/
structure EmptyRange where
  id : Int
  start : Int
  stop : Int
  deriving DecidableEq, Repr

def EmptyRange.message (e : EmptyRange) : String :=
  s!"Unit {e.id} has an empty range [{e.start}, {e.stop})"

namespace CoverableUnit

/-- The unit of a range, if the range holds a character. -/
def make (id start stop : Int) (kind : UnitKind) (shape : NodeKind) (isExpression : Bool) (code : Text) :
    Except EmptyRange CoverableUnit :=
  if h : start < stop then .ok { id, start, stop, kind, shape, isExpression, code, nonempty := h }
  else .error { id, start, stop }

/-- Whether the unit ran at least once. -/
def executed (u : CoverableUnit) : Bool := decide (0 < u.executionCount)

/-- Whether the unit's text opens with a brace that its probe must follow. -/
def opensWithDelimiter (u : CoverableUnit) : Bool := u.shape == .blockStatement

def countExecution (u : CoverableUnit) : CoverableUnit :=
  { u with executionCount := u.executionCount + 1 }

/-- Whether two records describe the same unit, whatever their counts. -/
def same (u v : CoverableUnit) : Bool :=
  decide ({ u with executionCount := 0 } = { v with executionCount := 0 })

end CoverableUnit

end ScriptCoverage
