import ScriptCoverage.Unit.Registry

/-!
# Discovering units

Discovery looks at every object of a tree, parents first. A program and a block statement are units
themselves. A conditional expression contributes its two branches, in expression form. A switch case
with statements contributes the span from its first to its last statement. Empty spans cover nothing
and are dropped.

Specification: section 4.1, the unit discoverer.
-/

namespace ScriptCoverage

/-- A span that is to become a unit. -/
structure Candidate where
  span : Span
  kind : UnitKind
  shape : NodeKind
  isExpression : Bool
  deriving DecidableEq, Repr

namespace Node

/-- The branch of a conditional expression under a field name, if it is a syntax node. -/
def branch? (node : Node) (name : String) : Option Candidate :=
  match node.field? name with
  | some (.object branch) =>
    if branch.isSyntax then branch.span.map fun span => ⟨span, .ternaryBranch, branch.kind, true⟩
    else none
  | _ => none

/-- The spans of the statements directly in the body of a switch case. -/
def statementSpans (node : Node) : List Span :=
  match node.field? "consequent" with
  | some (.list items) => items.filterMap fun
    | .object statement => if statement.isSyntax then statement.span else none
    | _ => none
  | _ => []

/-- From the start of the first statement of a switch case to the end of the last. -/
def caseSpan? (node : Node) : Option Span :=
  match node.statementSpans with
  | [] => none
  | first :: rest => some ⟨first.start, ((first :: rest).getLast (by simp)).stop⟩

/-- What an object itself contributes, in order; objects that are no syntax nodes contribute nothing. -/
def candidates (node : Node) : List Candidate :=
  if node.isSyntax then
    match node.kind with
    | .program | .blockStatement =>
      node.span.toList.map fun span => ⟨span, .block, node.kind, false⟩
    | .conditionalExpression => (node.branch? "consequent").toList ++ (node.branch? "alternate").toList
    | .switchCase => node.caseSpan?.toList.map fun span => ⟨span, .switchCase, .switchCase, false⟩
    | .other => []
  else []

end Node

namespace Registry

/-- Registers the candidates that are not empty, in order; the new units come first in the result. -/
def addAll (r : Registry) : List Candidate → List CoverableUnit × Registry
  | [] => ([], r)
  | c :: rest =>
    if h : c.span.start < c.span.stop then
      let (unit, r) := r.add c.span c.kind c.shape c.isExpression h
      let (units, r) := r.addAll rest
      (unit :: units, r)
    else r.addAll rest

/-- Registers the units of a tree. The result lists the new ones in source order. -/
def discover (r : Registry) (root : Node) : List CoverableUnit × Registry :=
  let (units, r) := r.addAll (root.walk.flatMap Node.candidates)
  (sorted units, r)

end Registry

end ScriptCoverage
