import Mathlib.Data.List.Forall2
import ScriptCoverage.Proofs.Config.Loading
import ScriptCoverage.Proofs.Tree.Place
import ScriptCoverage.Proofs.Tree.Recast

/-!
# What a tree keeps of a parser value

A place in a value is the way down to a part of it, through items of lists and tuples and through entries of mappings
and objects, but not through an entry with a reserved key. The walk through the tree of a value lists the objects of the
value place by place (`Value.forall₂_walk`): every one of them once, in the lexicographic order of places. In this order
an object comes before what is below it, and parts come in the order of entries and items.
-/

namespace ScriptCoverage

open ScriptCoverage.Loading

namespace Value

variable {v w : Value} {tree : Tree} {place : List Nat}

/-- Mappings and objects with attributes. -/
def isObject : Value → Bool
  | .mapping _ => true
  | .object _ => true
  | _ => false

/-- The value of an entry, unless its key is reserved. -/
def free? (entry : Scalar × Value) : Option Value := if isReserved entry.1 then none else some entry.2

theorem free?_eq_some {entry : Scalar × Value} : free? entry = some v ↔ isReserved entry.1 = false ∧ entry.2 = v := by
  unfold free?
  cases isReserved entry.1 <;> simp

/-- Where one step down from a value leads, by position. Under a reserved key it leads nowhere. -/
def parts : Value → List (Option Value)
  | .list items => items.map some
  | .tuple items => items.map some
  | .mapping entries => entries.map free?
  | .object entries => entries.map free?
  | .scalar _ => []
  | .set _ => []
  | .atom => []

/-- The value at a place. -/
def partAt? : Value → List Nat → Option Value
  | v, [] => some v
  | v, i :: place => match v.parts[i]? with
    | some (some part) => part.partAt? place
    | _ => none

theorem partAt?_cons {part : Value} {i : Nat} (h : v.parts[i]? = some (some part)) (place : List Nat) :
    v.partAt? (i :: place) = part.partAt? place := by
  simp [partAt?, h]

theorem sizeOf_lt_of_free? {part : Value} {entries : List (Scalar × Value)} (h : some part ∈ entries.map free?) :
    sizeOf part < sizeOf entries := by
  obtain ⟨⟨key, value⟩, hentry, hpart⟩ := List.mem_map.1 h
  have hlt := List.sizeOf_lt_of_mem hentry
  obtain rfl : value = part := (free?_eq_some.1 hpart).2
  rw [Prod.mk.sizeOf_spec] at hlt
  omega

theorem sizeOf_part_lt {part : Value} (h : some part ∈ v.parts) : sizeOf part < sizeOf v := by
  cases v with
  | scalar s => cases h
  | set members => cases h
  | atom => cases h
  | list items =>
    have := List.sizeOf_lt_of_mem (by simpa [parts] using h)
    rw [list.sizeOf_spec]
    omega
  | tuple items =>
    have := List.sizeOf_lt_of_mem (by simpa [parts] using h)
    rw [tuple.sizeOf_spec]
    omega
  | mapping entries =>
    have := sizeOf_lt_of_free? h
    rw [mapping.sizeOf_spec]
    omega
  | object entries =>
    have := sizeOf_lt_of_free? h
    rw [object.sizeOf_spec]
    omega

/-- Induction over a value: a fact about a value may use it for its parts. -/
theorem induction_parts {motive : Value → Prop}
    (step : ∀ v, (∀ part, some part ∈ v.parts → motive part) → motive v) (v : Value) : motive v :=
  step v fun part _ => induction_parts step part
termination_by sizeOf v
decreasing_by exact sizeOf_part_lt ‹_›

mutual

/-- The places of the mappings and objects in a value, parents first. -/
def objectPlaces : Value → List (List Nat)
  | .scalar _ => []
  | .set _ => []
  | .atom => []
  | .list items => Node.placesFrom (itemPlaces items)
  | .tuple items => Node.placesFrom (itemPlaces items)
  | .mapping entries => [] :: Node.placesFrom (entryPlaces entries)
  | .object entries => [] :: Node.placesFrom (entryPlaces entries)

def itemPlaces : List Value → List (List (List Nat))
  | [] => []
  | item :: rest => item.objectPlaces :: itemPlaces rest

def entryPlaces : List (Scalar × Value) → List (List (List Nat))
  | [] => []
  | (key, value) :: rest => (if isReserved key then [] else value.objectPlaces) :: entryPlaces rest

end

/-- The places in what a step leads to. -/
def partPlaces (part : Option Value) : List (List Nat) := part.elim [] objectPlaces

theorem itemPlaces_eq (items : List Value) : itemPlaces items = (items.map some).map partPlaces := by
  induction items with
  | nil => rfl
  | cons item rest ih => rw [itemPlaces, ih]; rfl

theorem entryPlaces_eq (entries : List (Scalar × Value)) :
    entryPlaces entries = (entries.map free?).map partPlaces := by
  induction entries with
  | nil => rfl
  | cons entry rest ih =>
    obtain ⟨key, value⟩ := entry
    rw [entryPlaces, ih, List.map_cons, List.map_cons, free?]
    cases isReserved key <;> rfl

theorem objectPlaces_eq (v : Value) :
    v.objectPlaces = (if v.isObject then [[]] else []) ++ Node.placesFrom (v.parts.map partPlaces) := by
  cases v with
  | scalar s => rfl
  | set members => rfl
  | atom => rfl
  | list items => rw [objectPlaces, itemPlaces_eq]; rfl
  | tuple items => rw [objectPlaces, itemPlaces_eq]; rfl
  | mapping entries => rw [objectPlaces, entryPlaces_eq]; rfl
  | object entries => rw [objectPlaces, entryPlaces_eq]; rfl

/-- The places are those of mappings and objects. -/
theorem mem_objectPlaces : place ∈ v.objectPlaces ↔ ∃ w, v.partAt? place = some w ∧ w.isObject = true := by
  induction place generalizing v with
  | nil =>
    simp only [objectPlaces_eq, List.mem_append, Node.mem_placesFrom, partAt?, Option.some.injEq, exists_eq_left']
    cases v.isObject <;> simp
  | cons i place ih =>
    have hown : i :: place ∉ (if v.isObject then [[]] else [] : List (List Nat)) := by
      cases v.isObject <;> simp
    rw [objectPlaces_eq, List.mem_append, or_iff_right hown, Node.mem_placesFrom]
    constructor
    · rintro ⟨j, rest, places, heq, hplaces, hrest⟩
      cases heq
      rw [List.getElem?_map, Option.map_eq_some_iff] at hplaces
      obtain ⟨part, hpart, rfl⟩ := hplaces
      cases part with
      | none => cases hrest
      | some part =>
        rw [partAt?_cons hpart]
        exact ih.1 hrest
    · rintro ⟨w, hw, hobject⟩
      rw [partAt?] at hw
      split at hw
      · rename_i part hpart
        exact ⟨i, place, part.objectPlaces, rfl, by rw [List.getElem?_map, hpart]; rfl, ih.2 ⟨w, hw, hobject⟩⟩
      · cases hw

end Value

namespace Node

theorem pairwise_zipIdx {α : Type} (l : List α) (k : Nat) : (l.zipIdx k).Pairwise fun a b => a.2 < b.2 := by
  induction l generalizing k with
  | nil => exact .nil
  | cons a rest ih => exact List.pairwise_cons.2 ⟨fun b hb => List.le_snd_of_mem_zipIdx hb, ih (k + 1)⟩

/-- Places in objects side by side are in order if those in each of the objects are. -/
theorem pairwise_placesFrom {below : List (List (List Nat))} (h : ∀ places ∈ below, places.Pairwise (· < ·)) :
    (placesFrom below).Pairwise (· < ·) := by
  rw [placesFrom, List.pairwise_flatMap]
  refine ⟨fun pair hmem => ?_, (pairwise_zipIdx below 0).imp fun {a b} hlt x hx y hy => ?_⟩
  · obtain ⟨places, i⟩ := pair
    have hplaces := h places (List.mem_of_getElem? (List.mem_zipIdx_iff_getElem?.1 hmem))
    rw [List.pairwise_map]
    exact hplaces.imp fun hlt => List.cons_lt_cons_iff.2 (Or.inr ⟨rfl, hlt⟩)
  · obtain ⟨x, -, rfl⟩ := List.mem_map.1 hx
    obtain ⟨y, -, rfl⟩ := List.mem_map.1 hy
    exact List.cons_lt_cons_iff.2 (Or.inl hlt)

theorem forall₂_zipIdx {β : Type} {R : List Nat → β → Prop} {below : List (List (List Nat))} {values : List (List β)}
    {k : Nat} (hlength : below.length = values.length)
    (h : ∀ (i : Nat) places vs, below[i]? = some places → values[i]? = some vs →
      List.Forall₂ (fun place b => R ((k + i) :: place) b) places vs) :
    List.Forall₂ R ((below.zipIdx k).flatMap fun (places, i) => places.map (i :: ·)) values.flatten := by
  induction below generalizing values k with
  | nil =>
    cases values with
    | nil => exact .nil
    | cons vs rest => cases hlength
  | cons places rest ih =>
    cases values with
    | nil => cases hlength
    | cons vs others =>
      rw [List.zipIdx_cons, List.flatMap_cons, List.flatten_cons]
      refine List.rel_append ?_ (ih (Nat.succ.inj hlength) fun i places' vs' hplaces hvs => ?_)
      · exact List.forall₂_map_left_iff.2 (h 0 places vs rfl rfl)
      · have hnext := h (i + 1) places' vs' hplaces hvs
        rwa [← Nat.add_assoc, Nat.add_right_comm] at hnext

/-- What belongs to the places in objects side by side is what belongs to the places in each of them. -/
theorem forall₂_placesFrom {β : Type} {R : List Nat → β → Prop} {below : List (List (List Nat))}
    {values : List (List β)} (hlength : below.length = values.length)
    (h : ∀ (i : Nat) places vs, below[i]? = some places → values[i]? = some vs →
      List.Forall₂ (fun place b => R (i :: place) b) places vs) :
    List.Forall₂ R (placesFrom below) values.flatten :=
  forall₂_zipIdx hlength (by simpa using h)

end Node

namespace Value

variable {v w : Value} {tree : Tree} {place : List Nat}

/-- The places come in lexicographic order. -/
theorem pairwise_objectPlaces (v : Value) : v.objectPlaces.Pairwise (· < ·) := by
  induction v using induction_parts with
  | step v ih =>
    rw [objectPlaces_eq, List.pairwise_append]
    refine ⟨by split <;> simp, Node.pairwise_placesFrom fun places hplaces => ?_, fun x hx y hy => ?_⟩
    · obtain ⟨part, hpart, rfl⟩ := List.mem_map.1 hplaces
      cases part with
      | none => exact .nil
      | some part => exact ih part hpart
    · obtain ⟨i, rest, -, rfl, -⟩ := Node.mem_placesFrom.1 hy
      obtain rfl : x = [] := by
        split at hx
        · exact List.mem_singleton.1 hx
        · cases hx
      exact List.nil_lt_cons _ _

/-! ## Conversion, one step down -/

/-- A part of a value, and what becomes of it. What no step leads to is left out. -/
abbrev Becomes : Option Value → Option Tree → Prop := Option.Rel fun part tree => Tree.ofValue part = .ok tree

/-- The objects in what becomes of a part. -/
def partWalk (part : Option Tree) : List Node := part.elim [] Tree.walk

theorem becomes_items {items : List Value} {trees : List Tree} (h : Tree.ofValues items = .ok trees) :
    List.Forall₂ Becomes (items.map some) (trees.map some) ∧
      Tree.walkList trees = ((trees.map some).map partWalk).flatten := by
  induction items generalizing trees with
  | nil => cases h; exact ⟨.nil, rfl⟩
  | cons item rest ih =>
    rw [Tree.ofValues] at h
    obtain ⟨tree, htree, h⟩ := of_bind_ok h
    obtain ⟨others, hothers, h⟩ := of_bind_ok h
    cases h
    obtain ⟨hrest, hwalk⟩ := ih hothers
    exact ⟨.cons (.some htree) hrest, by rw [Tree.walkList, hwalk]; rfl⟩

theorem becomes_entries {entries : List (Scalar × Value)} {fields : List (Scalar × Tree)}
    (h : Tree.ofEntries entries = .ok fields) :
    ∃ trees, List.Forall₂ Becomes (entries.map free?) trees ∧
      Node.walkFields fields = (trees.map partWalk).flatten := by
  induction entries generalizing fields with
  | nil => cases h; exact ⟨[], .nil, rfl⟩
  | cons entry rest ih =>
    obtain ⟨key, value⟩ := entry
    rw [Tree.ofEntries] at h
    split at h
    · rename_i hreserved
      obtain ⟨trees, hrest, hwalk⟩ := ih h
      refine ⟨none :: trees, .cons ?_ hrest, by rw [hwalk]; rfl⟩
      rw [free?, if_pos hreserved]
      exact .none
    · rename_i hfree
      obtain ⟨tree, htree, h⟩ := of_bind_ok h
      obtain ⟨others, hothers, h⟩ := of_bind_ok h
      cases h
      obtain ⟨trees, hrest, hwalk⟩ := ih hothers
      refine ⟨some tree :: trees, .cons ?_ hrest, by rw [Node.walkFields, hwalk]; rfl⟩
      rw [free?, if_neg hfree]
      exact .some htree

/-- The objects in the tree of a value: its own, if it is one, and then those in what becomes of its parts. -/
theorem becomes_parts (h : Tree.ofValue v = .ok tree) :
    ∃ own trees, List.Forall₂ Becomes v.parts trees ∧ tree.walk = own ++ (trees.map partWalk).flatten ∧
      if v.isObject then ∃ node, own = [node] ∧ tree = .object node else own = [] := by
  cases v with
  | scalar s => cases h; exact ⟨[], [], .nil, rfl, rfl⟩
  | set members => cases h; exact ⟨[], [], .nil, rfl, rfl⟩
  | atom => cases h; exact ⟨[], [], .nil, rfl, rfl⟩
  | list items =>
    obtain ⟨trees, htrees, h⟩ := of_bind_ok h
    cases h
    obtain ⟨hparts, hwalk⟩ := becomes_items htrees
    exact ⟨[], _, hparts, hwalk, rfl⟩
  | tuple items =>
    obtain ⟨trees, htrees, h⟩ := of_bind_ok h
    cases h
    obtain ⟨hparts, hwalk⟩ := becomes_items htrees
    exact ⟨[], _, hparts, hwalk, rfl⟩
  | mapping entries =>
    obtain ⟨span, -, h⟩ := of_bind_ok h
    obtain ⟨fields, hfields, h⟩ := of_bind_ok h
    cases h
    obtain ⟨trees, hparts, hwalk⟩ := becomes_entries hfields
    exact ⟨_, trees, hparts, by rw [Tree.walk, Node.walk, hwalk]; rfl, _, rfl, rfl⟩
  | object entries =>
    obtain ⟨span, -, h⟩ := of_bind_ok h
    obtain ⟨fields, hfields, h⟩ := of_bind_ok h
    cases h
    obtain ⟨trees, hparts, hwalk⟩ := becomes_entries hfields
    exact ⟨_, trees, hparts, by rw [Tree.walk, Node.walk, hwalk]; rfl, _, rfl, rfl⟩

/-- The tree object that a place of a value becomes. -/
def BecomesAt (v : Value) (place : List Nat) (node : Node) : Prop :=
  ∃ w, v.partAt? place = some w ∧ Tree.ofValue w = .ok (.object node)

/-- The walk through the tree of a value goes through the places of its objects. -/
theorem forall₂_walk (h : Tree.ofValue v = .ok tree) : List.Forall₂ v.BecomesAt v.objectPlaces tree.walk := by
  induction v using induction_parts generalizing tree with
  | step v ih =>
    obtain ⟨own, trees, hparts, hwalk, hown⟩ := becomes_parts h
    rw [objectPlaces_eq, hwalk]
    refine List.rel_append ?_ (Node.forall₂_placesFrom ?_ fun i places nodes hplaces hnodes => ?_)
    · cases hobject : v.isObject with
      | true =>
        obtain ⟨node, rfl, rfl⟩ := by simpa [hobject] using hown
        exact .cons ⟨v, rfl, h⟩ .nil
      | false =>
        obtain rfl : own = [] := by simpa [hobject] using hown
        exact .nil
    · rw [List.length_map, List.length_map, hparts.length_eq]
    · rw [List.getElem?_map, Option.map_eq_some_iff] at hplaces hnodes
      obtain ⟨part, hpart, rfl⟩ := hplaces
      obtain ⟨made, hmade, rfl⟩ := hnodes
      have hbecomes : Becomes part made := by
        obtain ⟨hi, rfl⟩ := List.getElem?_eq_some_iff.1 hpart
        obtain ⟨hj, rfl⟩ := List.getElem?_eq_some_iff.1 hmade
        exact hparts.get hi hj
      cases hbecomes with
      | none => exact .nil
      | some htree =>
        refine (ih _ (List.mem_of_getElem? hpart) htree).imp fun place node hnode => ?_
        obtain ⟨w, hw, hw'⟩ := hnode
        exact ⟨w, (partAt?_cons hpart place).trans hw, hw'⟩

end Value

/-! ## The walk as a loop -/

namespace Node

/-- The objects that a loop with a stack comes to. It takes the first object from the stack and puts the children of
this object in its place. -/
def visit : List Node → List Node
  | [] => []
  | node :: stack => node :: visit (node.children ++ stack)
termination_by stack => (stack.flatMap walk).length
decreasing_by
  rw [List.flatMap_append, List.flatMap_cons, walk_eq node]
  simp only [List.cons_append, List.length_cons, List.length_append]
  omega

/-- The loop comes to what is at and under the objects on its stack, one after the other. -/
theorem visit_eq (stack : List Node) : visit stack = stack.flatMap walk := by
  induction stack using visit.induct with
  | case1 => rw [visit, List.flatMap_nil]
  | case2 node stack ih =>
    rw [visit, ih, List.flatMap_append, List.flatMap_cons, walk_eq node, List.cons_append]

end Node

namespace Value

variable {v : Value} {root : Node}

/-- **Reached once.** The walk through the tree of a value, which is what the loop with a stack comes to, lists the tree
objects of the mappings and objects in the value that are reached without a step to a reserved key. They come in the
lexicographic order of their places: each once, before what is below it, and siblings in the order of entries and items.
The tree does not depend on which parts of the value are mappings and which objects, or lists and tuples. -/
theorem reached_once (h : Tree.ofValue v = .ok (.object root)) :
    (∃ places : List (List Nat), places.Pairwise (· < ·) ∧
      (∀ place, place ∈ places ↔ ∃ w, v.partAt? place = some w ∧ w.isObject = true) ∧
      List.Forall₂ v.BecomesAt places root.walk) ∧
    Node.visit [root] = root.walk ∧
    ∀ w, Recast v w → Tree.ofValue w = .ok (.object root) := by
  refine ⟨⟨v.objectPlaces, v.pairwise_objectPlaces, fun place => mem_objectPlaces, ?_⟩, ?_, fun w hw => ?_⟩
  · simpa only [Tree.walk] using forall₂_walk h
  · rw [Node.visit_eq, List.flatMap_singleton]
  · rw [← hw.ofValue_eq, h]

/-- A value with objects in nested lists, below an object that is no syntax node, and under a reserved key. -/
def mixed (listed : List Value → Value) (keyed : Mapping Value → Value) : Value :=
  .mapping [(.text "type", .text "Program"), (.text "loc", .mapping [(.text "start", .mapping [])]),
    (.text "body", listed [.list [keyed [(.text "type", .text "A")], .atom], .mapping [(.text "type", .text "B")]]),
    (.text "extra", keyed [(.text "holder", .mapping [(.text "type", .text "C")])])]

theorem reached_once_mixed : ∃ root, Tree.ofValue (mixed .list .mapping) = .ok (.object root) ∧
    root.walk.map Node.typeName = [some "Program", some "A", some "B", none, some "C"] ∧
    (∃ places, List.Forall₂ (mixed .list .mapping).BecomesAt places root.walk ∧ [2, 0, 0] ∈ places) ∧
    Node.visit [root] = root.walk ∧ Tree.ofValue (mixed .tuple .object) = .ok (.object root) := by
  obtain ⟨root, hroot, hnames⟩ : ∃ root, Tree.ofValue (mixed .list .mapping) = .ok (.object root) ∧
    root.walk.map Node.typeName = [some "Program", some "A", some "B", none, some "C"] := ⟨_, rfl, rfl⟩
  have hbody : Recast
      (.list [.list [.mapping [(.text "type", .text "A")], .atom], .mapping [(.text "type", .text "B")]])
      (.tuple [.list [.object [(.text "type", .text "A")], .atom], .mapping [(.text "type", .text "B")]]) :=
    .items rfl rfl (.cons (.items rfl rfl (.cons (.fields rfl rfl (.reserved rfl _ .nil)) (.cons (.same _) .nil)))
      (.cons (.same _) .nil))
  have hextra : Recast (.mapping [(.text "holder", .mapping [(.text "type", .text "C")])])
      (.object [(.text "holder", .mapping [(.text "type", .text "C")])]) :=
    .fields rfl rfl (.free rfl (.same _) .nil)
  have hrecast : Recast (mixed .list .mapping) (mixed .tuple .object) :=
    .fields rfl rfl (.reserved rfl _ (.reserved rfl _ (.free rfl hbody (.free rfl hextra .nil))))
  obtain ⟨⟨places, -, hmem, hplaces⟩, hvisit, hsame⟩ := reached_once hroot
  exact ⟨root, hroot, hnames, ⟨places, hplaces, (hmem _).2 ⟨_, rfl, rfl⟩⟩, hvisit, hsame _ hrecast⟩

example : (mixed .list .mapping).objectPlaces = [[], [2, 0, 0], [2, 1], [3], [3, 0]] := rfl

end Value

end ScriptCoverage
