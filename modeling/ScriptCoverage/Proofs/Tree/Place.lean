import ScriptCoverage.Tree.Basic

/-!
# Places in a tree

Two objects of one tree may be equal, so "another object" and "the objects below an object" are said of
places. A place is the way down from the root: at each object the position of the next one among its
children. A place lies above another one if it is a proper beginning of it.

`Node.mem_walk` ties places to the walk, and `Node.mem_places` lists all places of a tree, so that a
statement about all of them can be evaluated. `Node.pairwise_walk` is the induction that later modules use:
a relation between what the objects of a tree contribute, in the order of the walk, follows from what
happens at one object.
-/

namespace ScriptCoverage

/-! ## The walk, one object at a time -/

mutual

theorem Tree.walk_eq : ∀ part : Tree, part.walk = part.objects.flatMap Node.walk
  | .scalar _ => rfl
  | .atom => rfl
  | .list items => by
    simp only [Tree.walk, Tree.objects]
    exact Tree.walkList_eq items
  | .object node => by simp [Tree.walk, Tree.objects]

theorem Tree.walkList_eq : ∀ items : List Tree,
    Tree.walkList items = (Tree.objects.objectsOfList items).flatMap Node.walk
  | [] => rfl
  | item :: rest => by
    simp only [Tree.walkList, Tree.objects.objectsOfList, List.flatMap_append]
    rw [Tree.walk_eq item, Tree.walkList_eq rest]

end

theorem Node.walkFields_eq : ∀ fields : List (Scalar × Tree),
    Node.walkFields fields = (fields.flatMap fun (_, part) => part.objects).flatMap Node.walk
  | [] => rfl
  | (_, part) :: rest => by
    simp only [Node.walkFields, List.flatMap_cons, List.flatMap_append]
    rw [Tree.walk_eq part, Node.walkFields_eq rest]

namespace Node

/-- An object comes before everything under its children. -/
theorem walk_eq (node : Node) : node.walk = node :: node.children.flatMap walk := by
  obtain ⟨typeName, span, fields⟩ := node
  simp only [walk, children, Node.fields]
  rw [walkFields_eq]

theorem mem_walk_self (node : Node) : node ∈ node.walk := by
  rw [walk_eq]; simp

theorem mem_walk_cons {node x : Node} : x ∈ node.walk ↔ x = node ∨ ∃ child ∈ node.children, x ∈ child.walk := by
  rw [walk_eq]; simp

theorem length_walk_lt {node child : Node} (h : child ∈ node.children) :
    child.walk.length < node.walk.length := by
  obtain ⟨before, after, hsplit⟩ := List.append_of_mem h
  rw [walk_eq node, hsplit]
  simp only [List.flatMap_append, List.flatMap_cons, List.length_cons, List.length_append]
  omega

/-- Induction over a tree: a fact about an object may use it for the children. -/
theorem induction_children {motive : Node → Prop}
    (step : ∀ node, (∀ child ∈ node.children, motive child) → motive node) (node : Node) : motive node :=
  step node fun child _ => induction_children step child
termination_by node.walk.length
decreasing_by exact length_walk_lt ‹_›

/-- What is under a child of an object in the walk is in the walk too. -/
theorem mem_walk_trans {root node x : Node} (hn : node ∈ root.walk) (hx : x ∈ node.walk) : x ∈ root.walk := by
  induction root using induction_children with
  | step root ih =>
    rcases mem_walk_cons.1 hn with rfl | ⟨child, hc, hn⟩
    · exact hx
    · exact mem_walk_cons.2 (Or.inr ⟨child, hc, ih child hc hn⟩)

theorem length_walk_le {root x : Node} (h : x ∈ root.walk) : x.walk.length ≤ root.walk.length := by
  induction root using induction_children with
  | step root ih =>
    rcases mem_walk_cons.1 h with rfl | ⟨child, hc, hx⟩
    · exact Nat.le_refl _
    · have := ih child hc hx
      have := length_walk_lt hc
      omega

theorem mem_walk_of_mem_children {node child : Node} (h : child ∈ node.children) : child ∈ node.walk :=
  mem_walk_cons.2 (Or.inr ⟨child, h, mem_walk_self child⟩)

/-- **Relations along the walk.** What the objects of a tree contribute is pairwise related, in the order of
the walk, if at every object this holds of its own contributions, of these and all from below, and of those
from below two of its children. The condition `P` is what is known of an object and everything below it. -/
theorem pairwise_walk {α : Type} {R : α → α → Prop} {f : Node → List α} {P : Node → Prop}
    (down : ∀ node, P node → ∀ child ∈ node.children, P child)
    (own : ∀ node, P node → (f node).Pairwise R)
    (below : ∀ node, P node → ∀ child ∈ node.children, ∀ x ∈ child.walk, ∀ a ∈ f node, ∀ b ∈ f x, R a b)
    (apart : ∀ node, P node → node.children.Pairwise fun c d =>
      ∀ x ∈ c.walk, ∀ y ∈ d.walk, ∀ a ∈ f x, ∀ b ∈ f y, R a b)
    (root : Node) (h : P root) : (root.walk.flatMap f).Pairwise R := by
  induction root using induction_children with
  | step node ih =>
    rw [walk_eq, List.flatMap_cons, List.pairwise_append]
    refine ⟨own node h, ?_, ?_⟩
    · rw [List.flatMap_assoc, List.pairwise_flatMap]
      refine ⟨fun child hc => ih child hc (down node h child hc), (apart node h).imp ?_⟩
      intro c d hcd a ha b hb
      obtain ⟨x, hx, ha⟩ := List.mem_flatMap.1 ha
      obtain ⟨y, hy, hb⟩ := List.mem_flatMap.1 hb
      exact hcd x hx y hy a ha b hb
    · intro a ha b hb
      obtain ⟨x, hx, hb⟩ := List.mem_flatMap.1 hb
      obtain ⟨child, hc, hx⟩ := List.mem_flatMap.1 hx
      exact below node h child hc x hx a ha b hb

/-! ## Places -/

/-- The object at a place. -/
def at? : Node → List Nat → Option Node
  | node, [] => some node
  | node, i :: place => match node.children[i]? with
    | some child => child.at? place
    | none => none

@[simp] theorem at?_nil (node : Node) : node.at? [] = some node := rfl

theorem at?_cons {node child : Node} {i : Nat} (h : node.children[i]? = some child) (place : List Nat) :
    node.at? (i :: place) = child.at? place := by
  simp [at?, h]

theorem mem_walk {root x : Node} : x ∈ root.walk ↔ ∃ place, root.at? place = some x := by
  induction root using induction_children with
  | step root ih =>
    rw [mem_walk_cons]
    constructor
    · rintro (rfl | ⟨child, hc, hx⟩)
      · exact ⟨[], rfl⟩
      · obtain ⟨place, hp⟩ := (ih child hc).1 hx
        obtain ⟨i, hi⟩ := List.mem_iff_getElem?.1 hc
        exact ⟨i :: place, by rw [at?_cons hi, hp]⟩
    · rintro ⟨place, hp⟩
      cases place with
      | nil => simp only [at?_nil, Option.some.injEq] at hp; exact Or.inl hp.symm
      | cons i place =>
        simp only [at?] at hp
        split at hp
        · rename_i child hi
          have hc := List.mem_of_getElem? hi
          exact Or.inr ⟨child, hc, (ih child hc).2 ⟨place, hp⟩⟩
        · cases hp

/-- The places in objects side by side, each behind the position of its object. -/
def placesFrom (below : List (List (List Nat))) : List (List Nat) :=
  below.zipIdx.flatMap fun (places, i) => places.map (i :: ·)

end Node

mutual

/-- All places in a tree. -/
def Node.places : Node → List (List Nat)
  | .mk _ _ fields => [] :: Node.placesFrom (Node.fieldPlaces fields)

/-- The places in each object directly under some fields. -/
def Node.fieldPlaces : List (Scalar × Tree) → List (List (List Nat))
  | [] => []
  | (_, part) :: rest => part.places ++ Node.fieldPlaces rest

/-- The places in each of the objects that a part consists of. -/
def Tree.places : Tree → List (List (List Nat))
  | .scalar _ => []
  | .atom => []
  | .list items => Tree.placesOfList items
  | .object node => [node.places]

def Tree.placesOfList : List Tree → List (List (List Nat))
  | [] => []
  | item :: rest => item.places ++ Tree.placesOfList rest

end

mutual

theorem Tree.places_eq : ∀ part : Tree, part.places = part.objects.map Node.places
  | .scalar _ => rfl
  | .atom => rfl
  | .list items => by
    simp only [Tree.places, Tree.objects]
    exact Tree.placesOfList_eq items
  | .object node => by simp [Tree.places, Tree.objects]

theorem Tree.placesOfList_eq : ∀ items : List Tree,
    Tree.placesOfList items = (Tree.objects.objectsOfList items).map Node.places
  | [] => rfl
  | item :: rest => by
    simp only [Tree.placesOfList, Tree.objects.objectsOfList, List.map_append]
    rw [Tree.places_eq item, Tree.placesOfList_eq rest]

end

theorem Node.fieldPlaces_eq : ∀ fields : List (Scalar × Tree),
    Node.fieldPlaces fields = (fields.flatMap fun (_, part) => part.objects).map Node.places
  | [] => rfl
  | (_, part) :: rest => by
    simp only [Node.fieldPlaces, List.flatMap_cons, List.map_append]
    rw [Tree.places_eq part, Node.fieldPlaces_eq rest]

namespace Node

theorem places_eq (node : Node) : node.places = [] :: placesFrom (node.children.map places) := by
  obtain ⟨typeName, span, fields⟩ := node
  simp only [places, children, Node.fields]
  rw [fieldPlaces_eq]

theorem mem_placesFrom {below : List (List (List Nat))} {place : List Nat} :
    place ∈ placesFrom below ↔ ∃ i rest places, place = i :: rest ∧ below[i]? = some places ∧ rest ∈ places := by
  simp only [placesFrom, List.mem_flatMap, Prod.exists, List.mem_map, List.mem_zipIdx_iff_getElem?]
  constructor
  · rintro ⟨places, i, hi, rest, hr, rfl⟩
    exact ⟨i, rest, places, rfl, hi, hr⟩
  · rintro ⟨i, rest, places, rfl, hi, hr⟩
    exact ⟨places, i, hi, rest, hr, rfl⟩

/-- The list of places is complete, and every place in it holds an object. -/
theorem mem_places {root : Node} {place : List Nat} : place ∈ root.places ↔ ∃ node, root.at? place = some node := by
  induction place generalizing root with
  | nil => rw [places_eq]; simp
  | cons i place ih =>
    rw [places_eq, List.mem_cons, mem_placesFrom]
    constructor
    · rintro (h | ⟨j, rest, places, heq, hj, hr⟩)
      · cases h
      · cases heq
        rw [List.getElem?_map, Option.map_eq_some_iff] at hj
        obtain ⟨child, hc, rfl⟩ := hj
        obtain ⟨node, hn⟩ := ih.1 hr
        exact ⟨node, by rw [at?_cons hc, hn]⟩
    · rintro ⟨node, hn⟩
      simp only [at?] at hn
      split at hn
      · rename_i child hc
        exact Or.inr ⟨i, place, child.places, rfl, by simp [hc], ih.2 ⟨node, hn⟩⟩
      · cases hn

/-! ## Ranges of syntax nodes -/

/-- The range of a syntax node. An object that lacks a type or a range has none. -/
def range? (node : Node) : Option Span := if node.isSyntax then node.span else none

/-- The range of the syntax node at a place. -/
def rangeAt? (root : Node) (place : List Nat) : Option Span := (root.at? place).bind range?

theorem range?_of_isSyntax {node : Node} (h : node.isSyntax = true) : ∃ range, node.range? = some range := by
  have hs : node.span.isSome = true := by
    simp only [isSyntax, Bool.and_eq_true] at h
    exact h.2
  obtain ⟨range, hr⟩ := Option.isSome_iff_exists.1 hs
  exact ⟨range, by simp [range?, h, hr]⟩

theorem rangeAt?_of_at? {root node : Node} {place : List Nat} (h : root.at? place = some node) :
    root.rangeAt? place = node.range? := by
  simp [rangeAt?, h]

theorem mem_places_of_rangeAt? {root : Node} {place : List Nat} {range : Span}
    (h : root.rangeAt? place = some range) : place ∈ root.places := by
  unfold rangeAt? at h
  obtain ⟨node, hn, -⟩ := Option.bind_eq_some_iff.1 h
  exact mem_places.2 ⟨node, hn⟩

theorem rangeAt?_cons {node child : Node} {i : Nat} (h : node.children[i]? = some child) (place : List Nat) :
    node.rangeAt? (i :: place) = child.rangeAt? place := by
  simp [rangeAt?, at?_cons h]

end Node

/-- A syntax node as a part of a tree. -/
def syntaxTree (type : String) (start stop : Int) (fields : List (String × Tree)) : Tree :=
  .object (.mk (some type) (some ⟨start, stop⟩) (fields.map fun (name, part) => (.text name, part)))

end ScriptCoverage
