import ScriptCoverage.Tree.Basic
import ScriptCoverage.Value.Conversion

/-!
# Trees from parser output

Parsers hand over mappings, objects with attributes, lists and tuples; conversion gives them one form.
Mappings and objects become tree objects, lists and tuples become lists, everything else is a leaf. A
range is any pair whose members read as integers; the members of a set have no positions, so it is none.

Specification: sections 1 and 2, the syntax adapter over the output of a parser.
-/

namespace ScriptCoverage

/-- The range that two members describe. -/
private def spanOf (start stop : Value) : Except ConversionError (Option Span) := do
  let first ← start.toInt
  let last ← stop.toInt
  .ok (some ⟨first, last⟩)

/-- The member of a mapping under an integer key. -/
private def memberAt (entries : Mapping Value) (i : Int) : Except ConversionError Value :=
  match entries.find? (.int i) with
  | some v => .ok v
  | none => .error (.fault .missingKey)

/-- The range that a value describes: a collection of two members. Collections of another size and no
value at all describe none. -/
def Span.ofValue : Value → Except ConversionError (Option Span)
  | .null => .ok none
  | .list [start, stop] | .tuple [start, stop] => spanOf start stop
  | .list _ | .tuple _ => .ok none
  | .set members => if members.length = 2 then .error (.fault .wrongType) else .ok none
  | .text s => match s.toList with
    | [start, stop] => spanOf (.text (String.singleton start)) (.text (String.singleton stop))
    | _ => .ok none
  | .bytes [start, stop] => .ok (some ⟨start.toNat, stop.toNat⟩)
  | .bytes _ => .ok none
  | .mapping entries =>
    if entries.length = 2 then do
      let start ← (← memberAt entries 0).toInt
      let stop ← (← memberAt entries 1).toInt
      .ok (some ⟨start, stop⟩)
    else .ok none
  | _ => .error (.fault .wrongType)

/-- The field names that a tree object keeps as its type and range, or drops. -/
def isReserved (key : Scalar) : Bool :=
  key == .text "type" || key == .text "range" || key == .text "loc"

/-- The type name of an object: the text under `type`. -/
def typeNameOf (entries : Mapping Value) : Option String :=
  match entries.get? "type" with
  | some (.text name) => some name
  | _ => none

mutual

/-- The tree of a parser value. -/
def Tree.ofValue : Value → Except ConversionError Tree
  | .scalar s => .ok (.scalar s)
  | .set _ => .ok .atom
  | .atom => .ok .atom
  | .list items => return .list (← Tree.ofValues items)
  | .tuple items => return .list (← Tree.ofValues items)
  | .mapping entries => do
    let span ← Span.ofValue ((Mapping.get? entries "range").getD .null)
    return .object (.mk (typeNameOf entries) span (← Tree.ofEntries entries))
  | .object entries => do
    let span ← Span.ofValue ((Mapping.get? entries "range").getD .null)
    return .object (.mk (typeNameOf entries) span (← Tree.ofEntries entries))

def Tree.ofValues : List Value → Except ConversionError (List Tree)
  | [] => .ok []
  | item :: rest => return (← Tree.ofValue item) :: (← Tree.ofValues rest)

def Tree.ofEntries : List (Scalar × Value) → Except ConversionError (List (Scalar × Tree))
  | [] => .ok []
  | (key, value) :: rest =>
    if isReserved key then Tree.ofEntries rest
    else return (key, ← Tree.ofValue value) :: (← Tree.ofEntries rest)

end

end ScriptCoverage
