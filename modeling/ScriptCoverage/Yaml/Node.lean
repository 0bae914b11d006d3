import ScriptCoverage.Text.Base64
import ScriptCoverage.Yaml.Plain
import ScriptCoverage.Yaml.Scan

/-!
# YAML documents

The tokens of a text form at most one document, whose nodes become a value: quoted scalars are texts,
plain ones are read by their spelling, and the keys of a mapping have to be scalars. What is missing
between two tokens is an empty plain scalar. A text that cannot be read to its end is refused for that
only if the tokens before it can begin a document.
-/

namespace ScriptCoverage.Yaml

/-- A node of a document. -/
inductive Node where
  | plain (text : Text)
  | quoted (text : Text)
  | binary (text : Text)
  | sequence (items : List Node)
  | mapping (entries : List (Node × Node))

namespace Node

/-- A node and the tokens behind it. -/
abbrev Parsed := Except ReadError (Node × List Token)

/-- The refusal of the tokens ahead. -/
def refuse {α : Type} : List Token → Except ReadError α
  | .broken cause :: _ => .error (.refused cause)
  | _ => .error .malformed

/-- A scalar that is not there. -/
def empty : Node := .plain []

/-- Whether the next token is one of some tokens. -/
def atAny (stops : List Token) (ts : List Token) : Bool := ts.head?.any stops.contains

mutual

/-- The node at the front of the tokens. Block collections may begin only where `block` holds, and a
sequence without indentation of its own only where `indentless` holds. -/
def parse (block indentless : Bool) : (fuel : Nat) → List Token → Parsed
  | 0, ts => refuse ts
  | fuel + 1, ts =>
    match ts with
    | .plain text :: rest => .ok (.plain text, rest)
    | .quoted text :: rest => .ok (.quoted text, rest)
    | .binaryTag :: .plain text :: rest => .ok (.binary text, rest)
    | .binaryTag :: .quoted text :: rest => .ok (.binary text, rest)
    | .binaryTag :: rest => refuse rest
    | .flowSequenceStart :: rest => flowItems true [] fuel rest
    | .flowMappingStart :: rest => flowEntries true [] fuel rest
    | .blockEntry :: _ => if indentless then indentlessItems [] fuel ts else refuse ts
    | .blockSequenceStart :: rest => if block then blockItems [] fuel rest else refuse ts
    | .blockMappingStart :: rest => if block then blockEntries [] fuel rest else refuse ts
    | _ => refuse ts

/-- The node at the front, or an empty one if one of `stops` comes first. -/
def parseOr (stops : List Token) (block : Bool) : (fuel : Nat) → List Token → Parsed
  | 0, ts => refuse ts
  | fuel + 1, ts => if atAny stops ts then .ok (empty, ts) else parse block block fuel ts

/-- The items of an indented sequence, after those in `items`. -/
def blockItems (items : List Node) : (fuel : Nat) → List Token → Parsed
  | 0, ts => refuse ts
  | fuel + 1, ts =>
    match ts with
    | .blockEntry :: rest =>
      if atAny [.blockEntry, .blockEnd] rest then blockItems (empty :: items) fuel rest
      else do
        let (item, rest) ← parse true false fuel rest
        blockItems (item :: items) fuel rest
    | .blockEnd :: rest => .ok (.sequence items.reverse, rest)
    | _ => refuse ts

/-- The items of a sequence that is indented like the key before it. -/
def indentlessItems (items : List Node) : (fuel : Nat) → List Token → Parsed
  | 0, ts => refuse ts
  | fuel + 1, ts =>
    match ts with
    | .blockEntry :: rest =>
      if atAny [.blockEntry, .key, .value, .blockEnd] rest then indentlessItems (empty :: items) fuel rest
      else do
        let (item, rest) ← parse true false fuel rest
        indentlessItems (item :: items) fuel rest
    | _ => .ok (.sequence items.reverse, ts)

/-- The value behind a `:`, or an empty one. -/
def valueOr (stops : List Token) (block : Bool) : (fuel : Nat) → List Token → Parsed
  | 0, ts => refuse ts
  | fuel + 1, ts =>
    match ts with
    | .value :: rest => parseOr stops block fuel rest
    | _ => .ok (empty, ts)

/-- The entries of an indented mapping. -/
def blockEntries (entries : List (Node × Node)) : (fuel : Nat) → List Token → Parsed
  | 0, ts => refuse ts
  | fuel + 1, ts =>
    match ts with
    | .key :: rest => do
      let (key, rest) ← parseOr [.key, .value, .blockEnd] true fuel rest
      let (value, rest) ← valueOr [.key, .value, .blockEnd] true fuel rest
      blockEntries ((key, value) :: entries) fuel rest
    | .blockEnd :: rest => .ok (.mapping entries.reverse, rest)
    | _ => refuse ts

/-- The items of a sequence in brackets. A key makes an item a mapping of one entry. -/
def flowItems (first : Bool) (items : List Node) : (fuel : Nat) → List Token → Parsed
  | 0, ts => refuse ts
  | fuel + 1, ts =>
    match first, ts with
    | _, .flowSequenceEnd :: rest => .ok (.sequence items.reverse, rest)
    | false, .flowEntry :: .flowSequenceEnd :: rest => .ok (.sequence items.reverse, rest)
    | false, .flowEntry :: rest => flowItem items fuel rest
    | false, ts => refuse ts
    | true, ts => flowItem items fuel ts

def flowItem (items : List Node) : (fuel : Nat) → List Token → Parsed
  | 0, ts => refuse ts
  | fuel + 1, ts =>
    match ts with
    | .key :: rest => do
      let (key, rest) ← parseOr [.value, .flowEntry, .flowSequenceEnd] false fuel rest
      let (value, rest) ← valueOr [.flowEntry, .flowSequenceEnd] false fuel rest
      flowItems false (.mapping [(key, value)] :: items) fuel rest
    | ts => do
      let (item, rest) ← parse false false fuel ts
      flowItems false (item :: items) fuel rest

/-- The entries of a mapping in braces. An entry without a mark is a key without a value. -/
def flowEntries (first : Bool) (entries : List (Node × Node)) : (fuel : Nat) → List Token → Parsed
  | 0, ts => refuse ts
  | fuel + 1, ts =>
    match first, ts with
    | _, .flowMappingEnd :: rest => .ok (.mapping entries.reverse, rest)
    | false, .flowEntry :: .flowMappingEnd :: rest => .ok (.mapping entries.reverse, rest)
    | false, .flowEntry :: rest => flowEntry entries fuel rest
    | false, ts => refuse ts
    | true, ts => flowEntry entries fuel ts

def flowEntry (entries : List (Node × Node)) : (fuel : Nat) → List Token → Parsed
  | 0, ts => refuse ts
  | fuel + 1, ts =>
    match ts with
    | .key :: rest => do
      let (key, rest) ← parseOr [.value, .flowEntry, .flowMappingEnd] false fuel rest
      let (value, rest) ← valueOr [.flowEntry, .flowMappingEnd] false fuel rest
      flowEntries false ((key, value) :: entries) fuel rest
    | ts => do
      let (key, rest) ← parse false false fuel ts
      flowEntries false ((key, empty) :: entries) fuel rest

end

/-- The document that all tokens of a text form. Nothing but marks of its end may follow it. -/
def ofTokens (ts : List Token) : Except ReadError Node := do
  let fuel := 4 * ts.length + 8
  let (node, rest) ← match ts with
    | [] => (.ok (empty, []) : Parsed)
    | .documentStart :: rest =>
      parseOr [.documentStart, .documentEnd] true fuel (if rest.isEmpty then [.documentEnd] else rest)
    | ts => parse true false fuel ts
  match rest.dropWhile (· == .documentEnd) with
  | [] => return node
  | more => refuse more

/-- The scalar that a node spells. A collection spells none. -/
def scalar : Node → Except ReadError Scalar
  | .plain text => readPlain text
  | .quoted text => .ok (.text (String.ofList text))
  | .binary text => match Base64.decode? text with
    | some bytes => if text.all (·.toNat < 0x80) then .ok (.bytes bytes) else .error .malformed
    | none => .error .malformed
  | .sequence _ => .error .malformed
  | .mapping _ => .error .malformed

/-- The scalar that a node spells as a key. -/
def keyScalar : Node → Except ReadError Scalar
  | .plain text =>
    if PlainForm.ofText text = .equalSign then .ok (.text (String.ofList text)) else readPlain text
  | node => node.scalar

/-! ## Taking over entries

A key of the form `merge` is no entry of its own. The entries of the mapping behind it, or of the mappings
in a sequence, are taken over, in front of the mapping's own, which win; of a sequence the first mapping
wins. Anything else behind such a key is a fault, for which the key stays: it has no value. -/

def isMergeKey : Node → Bool
  | .plain text => PlainForm.ofText text == .merge
  | _ => false

/-- The entries that a value hands over, if it does. -/
def handedOver : Node → Option (List (Node × Node))
  | .mapping entries => some entries
  | .sequence items => do
    let parts ← items.mapM fun
      | .mapping entries => some entries
      | _ => none
    return parts.reverse.flatten
  | _ => none

/-- The entries of a mapping, behind those that it takes over. -/
def takeOver (entries : List (Node × Node)) : List (Node × Node) :=
  let (merges, own) := entries.partition (·.1.isMergeKey)
  merges.filter (fun (_, value) => value.handedOver.isNone) ++
    merges.flatMap (fun (_, value) => value.handedOver.getD []) ++ own

mutual

/-- A node in which every mapping has taken over its entries. -/
def settle : Node → Node
  | .sequence items => .sequence (settleItems items)
  | .mapping entries => .mapping (takeOver (settleEntries entries))
  | node => node

def settleItems : List Node → List Node
  | [] => []
  | item :: rest => item.settle :: settleItems rest

def settleEntries : List (Node × Node) → List (Node × Node)
  | [] => []
  | (key, value) :: rest => (key, value.settle) :: settleEntries rest

end

/-! ## What is wrong with a node

A document is read level by level: the parts of a collection are looked at only when everything that
stands less deep has been. So of several faults the one that stands least deep is reported, and of those
at one depth the first. -/

/-- Two lists of levels side by side. -/
def besides {α : Type} : List (List α) → List (List α) → List (List α)
  | [], more => more
  | levels, [] => levels
  | level :: levels, next :: more => (level ++ next) :: besides levels more

/-- The fault of reading a node as a scalar. -/
def faultOf : Except ReadError Scalar → List ReadError
  | .ok _ => []
  | .error e => [e]

mutual

/-- The faults in a node by their depth below it. -/
def faults : Node → List (List ReadError)
  | .sequence items => [] :: itemFaults items
  | .mapping entries => [] :: entryFaults entries
  | node => [faultOf node.scalar]

def itemFaults : List Node → List (List ReadError)
  | [] => []
  | item :: rest => besides item.faults (itemFaults rest)

def entryFaults : List (Node × Node) → List (List ReadError)
  | [] => []
  | (key, value) :: rest => besides (besides [faultOf key.keyScalar] value.faults) (entryFaults rest)

end

mutual

/-- The value of a node. -/
def toValue : Node → Except ReadError Value
  | .sequence items => return .list (← toValues items)
  | .mapping entries => return .mapping (Mapping.ofEntries (← toEntries entries))
  | node => .scalar <$> node.scalar

def toValues : List Node → Except ReadError (List Value)
  | [] => .ok []
  | item :: rest => return (← toValue item) :: (← toValues rest)

def toEntries : List (Node × Node) → Except ReadError (List (Scalar × Value))
  | [] => .ok []
  | (key, value) :: rest => return (← key.keyScalar, ← toValue value) :: (← toEntries rest)

end

/-- The value of a node, or its first fault. -/
def read (node : Node) : Except ReadError Value :=
  let node := node.settle
  match node.faults.flatten with
  | e :: _ => .error e
  | [] => node.toValue

end Node

/-- The value of the document that a text holds; a text without a document is a null. -/
def read (text : Text) : Except ReadError Value := do
  (← Node.ofTokens (← Token.scan text)).read

end ScriptCoverage.Yaml
