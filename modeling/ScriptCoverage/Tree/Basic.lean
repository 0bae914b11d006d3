import ScriptCoverage.Value.Basic

/-!
# Syntax trees

A parser hands over a tree of nodes, each with a type name and a half-open range of the source. Objects
without a type or a range (descriptors of regular expressions and the like) are no syntax nodes, but
they stay in the tree because they may hold nodes. `Node.walk` lists every object once, parents first.

Specification: section 2, the syntax adapter.
-/

namespace ScriptCoverage

/-- The node types that discovery and instrumentation tell apart. -/
inductive NodeKind where
  | program
  | blockStatement
  | conditionalExpression
  | switchCase
  | other
  deriving DecidableEq, Repr, Inhabited

namespace NodeKind

def name : NodeKind → String
  | program => "Program"
  | blockStatement => "BlockStatement"
  | conditionalExpression => "ConditionalExpression"
  | switchCase => "SwitchCase"
  | other => "Other"

/-- The kind of a node type; types that are not told apart are `other`. -/
def ofName : String → NodeKind
  | "Program" => program
  | "BlockStatement" => blockStatement
  | "ConditionalExpression" => conditionalExpression
  | "SwitchCase" => switchCase
  | _ => other

@[simp] theorem ofName_name (kind : NodeKind) : ofName kind.name = kind := by
  cases kind <;> rfl

theorem name_inj {kind second : NodeKind} : kind.name = second.name ↔ kind = second :=
  ⟨fun h => by rw [← ofName_name kind, h, ofName_name], fun h => h ▸ rfl⟩

end NodeKind

/-- The source positions from `start` up to, not including, `stop`. Nothing orders the two. -/
structure Span where
  start : Int
  stop : Int
  deriving DecidableEq, Repr, Inhabited

mutual

/-- A part of a tree: an object, a list of parts, or a leaf. -/
inductive Tree where
  | scalar (s : Scalar)
  | atom
  | list (items : List Tree)
  | object (node : Node)

/-- An object of a tree, with its type name and range if it has them, and its other fields in order. -/
inductive Node where
  | mk (typeName : Option String) (span : Option Span) (fields : List (Scalar × Tree))

end

namespace Node

def typeName : Node → Option String
  | mk typeName _ _ => typeName

def span : Node → Option Span
  | mk _ span _ => span

def fields : Node → Mapping Tree
  | mk _ _ fields => fields

/-- The kind of an object; one without a type is `other`. -/
def kind (node : Node) : NodeKind := node.typeName.elim .other .ofName

/-- An object is a syntax node if it has a type and a range. -/
def isSyntax (node : Node) : Bool := node.typeName.isSome && node.span.isSome

/-- The part under a field name. -/
def field? (node : Node) (name : String) : Option Tree := node.fields.get? name

end Node

namespace Tree

/-- The objects that a part consists of, lists flattened. Objects inside these are not listed. -/
def objects : Tree → List Node
  | scalar _ => []
  | atom => []
  | list items => objectsOfList items
  | object node => [node]
where
  objectsOfList : List Tree → List Node
    | [] => []
    | item :: rest => item.objects ++ objectsOfList rest

end Tree

/-- The objects directly under a node, in field order. -/
def Node.children (node : Node) : List Node := node.fields.flatMap fun (_, part) => part.objects

mutual

/-- Every object at or under a node, each once: the node, then what is under its fields in order. -/
def Node.walk : Node → List Node
  | .mk typeName span fields => .mk typeName span fields :: Node.walkFields fields

def Node.walkFields : List (Scalar × Tree) → List Node
  | [] => []
  | (_, part) :: rest => part.walk ++ Node.walkFields rest

/-- Every object in a part of a tree, in the same order. -/
def Tree.walk : Tree → List Node
  | .scalar _ => []
  | .atom => []
  | .list items => Tree.walkList items
  | .object node => node.walk

def Tree.walkList : List Tree → List Node
  | [] => []
  | item :: rest => item.walk ++ Tree.walkList rest

end

end ScriptCoverage
