import ScriptCoverage.Proofs.Probe.Splice
import ScriptCoverage.Proofs.Probe.Tracking
import ScriptCoverage.Proofs.Session.Exec
import ScriptCoverage.Proofs.Unit.Candidate
import ScriptCoverage.Proofs.Unit.Order
import ScriptCoverage.Run.Coverage

/-!
# From a tree to an instrumented script

A probe behind a brace stands one character after the start of its unit. Units that start together can
therefore be spliced only if those with a brace come last. Discovery sees a syntax node before what is below
it, so this holds when every other syntax node that starts with a block statement lies above it
(`BlocksLowest`).

Main statement `instrumentSource_faithful`: for such a tree whose ranges lie in the source, instrumenting
succeeds, the ledger holds one insertion for each unit, in its range, stripping gives the source back, and no
probe is ever refused by the tracker.
-/

namespace ScriptCoverage

/-! ## Trees that fit a source -/

namespace Node

/-- The ranges of all syntax nodes lie in a source of `length` characters. -/
def Within (root : Node) (length : Nat) : Prop :=
  ∀ place range, root.rangeAt? place = some range → 0 ≤ range.start ∧ range.start ≤ range.stop ∧ range.stop ≤ length

/-- Any other syntax node that starts with a block statement lies above it. -/
def BlocksLowest (root : Node) : Prop :=
  ∀ place block range other otherRange, root.at? place = some block → block.kind = .blockStatement →
    block.range? = some range → root.rangeAt? other = some otherRange → otherRange.start = range.start →
    other ≠ place → other <+: place

instance (root : Node) (length : Nat) : Decidable (root.Within length) :=
  decidable_of_iff (∀ place ∈ root.places, ∀ range ∈ root.rangeAt? place,
      0 ≤ range.start ∧ range.start ≤ range.stop ∧ range.stop ≤ length)
    ⟨fun h place range hr => h place (mem_places_of_rangeAt? hr) range hr,
      fun h place _ range hr => h place range hr⟩

instance (root : Node) : Decidable root.BlocksLowest :=
  decidable_of_iff (∀ place ∈ root.places, ∀ block ∈ root.at? place, block.kind = .blockStatement →
      ∀ range ∈ block.range?, ∀ other ∈ root.places, ∀ otherRange ∈ root.rangeAt? other,
        otherRange.start = range.start → other ≠ place → other <+: place)
    ⟨fun h place block range other otherRange hb hk hr ho =>
        h place (mem_places.2 ⟨block, hb⟩) block hb hk range hr other (mem_places_of_rangeAt? ho) otherRange ho,
      fun h place _ block hb hk range hr other _ otherRange ho =>
        h place block range other otherRange hb hk hr ho⟩

theorem Within.of_mem_walk {root x : Node} {length : Nat} {range : Span} (h : root.Within length)
    (hx : x ∈ root.walk) (hr : x.range? = some range) :
    0 ≤ range.start ∧ range.start ≤ range.stop ∧ range.stop ≤ length := by
  obtain ⟨place, hp⟩ := mem_walk.1 hx
  exact h place range (by rw [rangeAt?_of_at? hp, hr])

theorem BlocksLowest.of_mem_children {node child : Node} (h : node.BlocksLowest) (hc : child ∈ node.children) :
    child.BlocksLowest := by
  obtain ⟨i, hi⟩ := List.mem_iff_getElem?.1 hc
  intro place block range other otherRange hb hk hr ho hs hne
  have := h (i :: place) block range (i :: other) otherRange (by rw [at?_cons hi, hb]) hk hr
    (by rw [rangeAt?_cons hi, ho]) hs (by simpa using hne)
  exact (List.cons_prefix_cons.1 this).2

/-- Nothing below a block statement starts with it. -/
theorem BlocksLowest.start_ne_below {node child x : Node} {range r : Span} (h : node.BlocksLowest)
    (hk : node.kind = .blockStatement) (hr : node.range? = some range) (hc : child ∈ node.children)
    (hx : x ∈ child.walk) (hxr : x.range? = some r) : r.start ≠ range.start := by
  intro hs
  obtain ⟨i, hi⟩ := List.mem_iff_getElem?.1 hc
  obtain ⟨place, hp⟩ := mem_walk.1 hx
  have := h [] node range (i :: place) r rfl hk hr (by rw [rangeAt?_cons hi, rangeAt?_of_at? hp, hxr]) hs (by simp)
  simp at this

/-- What starts with a block statement among the children, and is under some child itself, is that block
statement: it is no other child, and it is not below a child. -/
theorem BlocksLowest.eq_of_start_eq {node child block x : Node} {range r : Span} (h : node.BlocksLowest)
    (hb : block ∈ node.children) (hk : block.kind = .blockStatement) (hr : block.range? = some range)
    (hc : child ∈ node.children) (hx : x ∈ child.walk) (hxr : x.range? = some r) (hs : r.start = range.start) :
    x = child ∧ x = block := by
  obtain ⟨j, hj⟩ := List.mem_iff_getElem?.1 hb
  obtain ⟨i, hi⟩ := List.mem_iff_getElem?.1 hc
  obtain ⟨place, hp⟩ := mem_walk.1 hx
  have hxat : node.at? (i :: place) = some x := by rw [at?_cons hi, hp]
  have hbat : node.at? [j] = some block := by rw [at?_cons hj, at?_nil]
  have heq : i :: place = [j] := by
    by_contra hne
    have hle := h [j] block range (i :: place) r hbat hk hr (by rw [rangeAt?_of_at? hxat, hxr]) hs hne
    obtain ⟨rfl, hnil⟩ := List.cons_prefix_cons.1 hle
    exact hne (by rw [List.prefix_nil.1 hnil])
  obtain ⟨rfl, rfl⟩ := List.cons.inj heq
  rw [at?_nil, Option.some.injEq] at hp
  rw [hi, Option.some.injEq] at hj
  exact ⟨hp.symm, by rw [← hp, hj]⟩

/-- Nothing under one child starts with a block statement under another one. -/
theorem BlocksLowest.start_ne_apart {node c d block x : Node} {i j : Nat} {range r : Span} (h : node.BlocksLowest)
    (hi : node.children[i]? = some c) (hj : node.children[j]? = some d) (hij : i ≠ j)
    (hb : block ∈ c.walk) (hk : block.kind = .blockStatement) (hr : block.range? = some range)
    (hx : x ∈ d.walk) (hxr : x.range? = some r) : r.start ≠ range.start := by
  intro hs
  obtain ⟨p, hp⟩ := mem_walk.1 hb
  obtain ⟨q, hq⟩ := mem_walk.1 hx
  have := h (i :: p) block range (j :: q) r (by rw [at?_cons hi, hp]) hk hr
    (by rw [rangeAt?_cons hj, rangeAt?_of_at? hq, hxr]) hs (by simp [Ne.symm hij])
  exact hij (List.cons_prefix_cons.1 this).1.symm

end Node

/-! ## The order of registration -/

namespace Candidate

/-- Among candidates that start together those with a brace come last. -/
def BraceLast (a b : Candidate) : Prop :=
  a.span.start = b.span.start → a.shape = .blockStatement → b.shape = .blockStatement

end Candidate

namespace Node

/-- A candidate starts where a syntax node does: the object itself, or a child of it. A candidate with a brace
starts with a block statement. -/
theorem Contributes.exists_start {node : Node} {c : Candidate} (h : node.Contributes c) :
    ∃ x ∈ node.walk, ∃ range, x.range? = some range ∧ range.start = c.span.start ∧
      (c.shape = .blockStatement → x.kind = .blockStatement) ∧ (x = node ∧ c.shape = node.kind ∨ x ∈ node.children) := by
  cases h with
  | block kind range_eq => exact ⟨node, mem_walk_self node, _, range_eq, rfl, id, Or.inl ⟨rfl, rfl⟩⟩
  | branch kind mem range_eq => exact ⟨_, mem_walk_of_mem_children mem, _, range_eq, rfl, id, Or.inr mem⟩
  | body kind mem_first first_eq _ _ =>
    exact ⟨_, mem_walk_of_mem_children mem_first, _, first_eq, rfl, fun h => by simp at h, Or.inr mem_first⟩

/-- A candidate from below that starts with a block statement among the children has a brace too. -/
theorem BlocksLowest.shape_of_start_eq {node child block x : Node} {range : Span} {c : Candidate}
    (h : node.BlocksLowest) (hb : block ∈ node.children) (hk : block.kind = .blockStatement)
    (hr : block.range? = some range) (hc : child ∈ node.children) (hx : x ∈ child.walk) (hcx : x.Contributes c)
    (hs : range.start = c.span.start) : c.shape = .blockStatement := by
  obtain ⟨y, hyx, r, hyr, hy, -, hplace⟩ := hcx.exists_start
  obtain ⟨rfl, rfl⟩ := h.eq_of_start_eq hb hk hr hc (mem_walk_trans hx hyx) hyr (by omega)
  rcases hplace with ⟨rfl, hshape⟩ | hyx
  · rw [hshape, hk]
  · -- an object that is below the child is not the child
    have h1 := length_walk_lt hyx
    have h2 := length_walk_le hx
    omega

/-- **Registration order.** If block statements are lowest, then among the candidates that start together those
with a brace come last. -/
theorem BlocksLowest.pairwise_braceLast {root : Node} (h : root.BlocksLowest) :
    (root.walk.flatMap candidates).Pairwise Candidate.BraceLast := by
  refine pairwise_walk (fun node hn child hc => BlocksLowest.of_mem_children hn hc) ?own ?below ?apart root h
  case own =>
    intro node hn
    refine pairwise_candidates ?_
    intro c hc d hd r s hr hs hstart hshape
    obtain ⟨-, rfl⟩ := hn.eq_of_start_eq hc hshape hr hd (mem_walk_self d) hs hstart.symm
    exact hshape
  case below =>
    intro node hn child hc x hx a ha b hb hstart hshape
    obtain ⟨y, -, r, hyr, hy, hyk, ⟨rfl, -⟩ | hyn⟩ := (contributes_of_mem ha).exists_start
    · obtain ⟨z, hzx, t, hzt, hz, -⟩ := (contributes_of_mem hb).exists_start
      exact absurd (by omega) (hn.start_ne_below (hyk hshape) hyr hc (mem_walk_trans hx hzx) hzt)
    · exact hn.shape_of_start_eq hyn (hyk hshape) hyr hc hx (contributes_of_mem hb) (by omega)
  case apart =>
    intro node hn
    refine List.pairwise_iff_getElem.2 ?_
    intro i j hi hj hij x hx y hy a ha b hb hstart hshape
    obtain ⟨u, hux, r, hur, hu, huk, -⟩ := (contributes_of_mem ha).exists_start
    obtain ⟨v, hvy, t, hvt, hv, -⟩ := (contributes_of_mem hb).exists_start
    exact absurd (by omega) (hn.start_ne_apart (List.getElem?_eq_getElem hi) (List.getElem?_eq_getElem hj)
      (Nat.ne_of_lt hij) (mem_walk_trans hx hux) (huk hshape) hur (mem_walk_trans hy hvy) hvt)

/-- The candidates of a tree lie in the source. -/
theorem Within.of_mem_candidates {root : Node} {length : Nat} {c : Candidate} (h : root.Within length)
    (hc : c ∈ root.walk.flatMap candidates) : 0 ≤ c.span.start ∧ c.span.stop ≤ length := by
  obtain ⟨node, hn, hc⟩ := List.mem_flatMap.1 hc
  cases contributes_of_mem hc with
  | block kind range_eq =>
    have := h.of_mem_walk hn range_eq
    exact ⟨this.1, this.2.2⟩
  | branch kind mem range_eq =>
    have := h.of_mem_walk (mem_walk_trans hn (mem_walk_of_mem_children mem)) range_eq
    exact ⟨this.1, this.2.2⟩
  | body kind mem_first first_eq mem_last last_eq =>
    have hfirst := h.of_mem_walk (mem_walk_trans hn (mem_walk_of_mem_children mem_first)) first_eq
    have hlast := h.of_mem_walk (mem_walk_trans hn (mem_walk_of_mem_children mem_last)) last_eq
    exact ⟨hfirst.1, hlast.2.2⟩

end Node

/-! ## The units of a tree -/

namespace CoverableUnit

theorem insertionPoint_eq (u : CoverableUnit) :
    u.insertionPoint = if u.shape = .blockStatement then u.start + 1 else u.start := by
  simp [insertionPoint, opensWithDelimiter]

/-- A probe stands within the range of its unit. -/
theorem insertionPoint_within (u : CoverableUnit) : u.start ≤ u.insertionPoint ∧ u.insertionPoint ≤ u.stop := by
  have := u.nonempty
  rw [insertionPoint_eq]
  split <;> omega

theorem insertionPoint_le {u v : CoverableUnit}
    (h : u.start < v.start ∨ u.start = v.start ∧ u.candidate.BraceLast v.candidate) :
    u.start ≤ v.start ∧ u.insertionPoint ≤ v.insertionPoint := by
  rw [insertionPoint_eq, insertionPoint_eq]
  rcases h with hlt | ⟨heq, hbrace⟩
  · constructor
    · omega
    · split <;> split <;> omega
  · have hshape : u.shape = .blockStatement → v.shape = .blockStatement := hbrace heq
    constructor
    · omega
    · by_cases hu : u.shape = .blockStatement
      · rw [if_pos hu, if_pos (hshape hu)]; omega
      · rw [if_neg hu]; split <;> omega

end CoverableUnit

namespace Registry

/-- The units of a tree that fits the source can be spliced into it. -/
theorem inOrder_discover {source : Text} {root : Node} (r : Registry) (hw : root.Within source.length)
    (hb : root.BlocksLowest) : InOrder source.length 0 (-1) (r.discover root).1 := by
  have hbounds : ∀ u ∈ (r.discover root).1, 0 ≤ u.start ∧ u.stop ≤ source.length := fun u hu =>
    hw.of_mem_candidates (mem_discover hu)
  refine inOrder_of_pairwise ?_ ?_ ?_
  · have hreg := pairwise_addAll r (hb.pairwise_braceLast.filter Candidate.covers)
    exact (sorted_pairwise hreg).imp CoverableUnit.insertionPoint_le
  · intro u hu
    exact Int.le_trans u.insertionPoint_within.2 (hbounds u hu).2
  · intro u hu
    have := (hbounds u hu).1
    have := u.insertionPoint_within.1
    omega

end Registry

/-! ## Instrumenting -/

/-- What instrumenting promises of a run: the ids are the positions of the units, every unit has one insertion,
which is its probe, at its place and in its range, the source can be had back, and the tracker knows every id
that stands in a probe, whatever it was called with before. -/
structure CoverageRun.Faithful (run : CoverageRun) (source : Text) (name : String) : Prop where
  ids : run.tracker.registry.units.map (·.id) = (List.range run.tracker.registry.size).map Int.ofNat
  one_each : (run.instrumented.insertions.map (·.unitId)).Perm
    ((List.range run.tracker.registry.size).map Int.ofNat)
  placed : ∀ i ∈ run.instrumented.insertions, ∃ u ∈ run.tracker.registry.units, u.id = i.unitId ∧
    i.probe = u.probe name ∧ i.sourceOffset = (if u.shape = .blockStatement then u.start + 1 else u.start) ∧
    u.start ≤ i.sourceOffset ∧ i.sourceOffset ≤ u.stop
  strip_eq : run.instrumented.strip = source
  tracked : ∀ i ∈ run.instrumented.insertions, ∀ argument, Tracker.idOf argument = .int i.unitId →
    ∀ violation calls, (({ run.tracker with violation }.trackAll calls).track argument).1 = .ok ()

/-- A run of a tree is the instrumented source with the units of the tree, and has not been executed. -/
theorem CoverageRun.exists_of_ofTree_ok {source : Text} {name : String} {root : Node} {run : CoverageRun}
    (h : ofTree source name root = .ok run) :
    ∃ script, instrument source (Registry.discover { source } root).1 name = .ok script ∧
      run = ⟨script, name, { registry := (Registry.discover { source } root).2 }, none⟩ := by
  simp only [ofTree] at h
  cases hi : instrument source (Registry.discover { source } root).1 name with
  | error e => rw [hi] at h; cases h
  | ok script =>
    rw [hi] at h
    cases h
    exact ⟨script, rfl, rfl⟩

/-- The run of a tree that fits the source exists and is faithful. -/
theorem CoverageRun.ofTree_faithful {source : Text} {name : String} {root : Node} (hname : Probe.isName name = true)
    (hw : root.Within source.length) (hb : root.BlocksLowest) :
    ∃ run, CoverageRun.ofTree source name root = .ok run ∧
      run.tracker.registry = (Registry.discover { source } root).2 ∧ run.Faithful source name := by
  have horder := Registry.inOrder_discover { source } hw hb
  have hperm := Registry.discover_perm source root
  have hids := Registry.discover_ids source root
  rcases hd : Registry.discover { source } root with ⟨units, registry⟩
  rw [hd] at horder hperm hids
  have hledger : ((ledger name 0 units).map (·.unitId)).Perm ((List.range registry.size).map Int.ofNat) := by
    rw [ledger_ids, ← hids]
    exact hperm.map _
  refine ⟨⟨⟨source, splicedText source name 0 units, ledger name 0 units⟩, name, { registry }, none⟩, ?_, rfl, ?_⟩
  · simp only [CoverageRun.ofTree, hd, instrument_of_inOrder hname horder]
    rfl
  refine ⟨hids, hledger, ?_, strip_instrument horder, ?_⟩
  · intro i hi
    obtain ⟨u, hu, hid, hpoint, hprobe⟩ := mem_ledger hi
    have hwithin := u.insertionPoint_within
    rw [← hpoint] at hwithin
    exact ⟨u, hperm.mem_iff.1 hu, hid.symm, hprobe, by rw [hpoint, u.insertionPoint_eq], hwithin⟩
  · intro i hi argument harg violation calls
    have hmem := hledger.mem_iff.1 (List.mem_map_of_mem (f := (·.unitId)) hi)
    obtain ⟨position, hlt, hposition⟩ := List.mem_map.1 hmem
    rw [List.mem_range] at hlt
    rw [← hposition] at harg
    have hknown : ({ registry, violation : Tracker }.trackAll calls).registry.knows argument = true := by
      rw [Tracker.knows_iff]
      exact ⟨position, by simpa using hlt, Tracker.idOf_eq_int.1 harg⟩
    obtain ⟨_, -, -, ht⟩ := Tracker.track_known hknown
    exact congrArg Prod.fst ht

/-- **Soundness of instrumentation.** If a parser gives a tree whose ranges lie in the source and whose block
statements are lowest, then a valid probe name is all it takes: the units of the tree are instrumented, and the
run is faithful to the source. Nothing but the log of the session changes. -/
theorem instrumentSource_faithful {s : Session} {source : Text} {name : String} {value : Value} {root : Node}
    {parse : Text → Except String Value} (hname : Probe.isName name = true) (hparser : s.parser = some parse)
    (hparse : parse source = .ok value) (htree : Tree.ofValue value = .ok (.object root))
    (hw : root.Within source.length) (hb : root.BlocksLowest) :
    ∃ run log, (instrumentSource source name).exec s = (.ok run, { s with log := s.log ++ log }) ∧
      run.tracker.registry = (Registry.discover { source } root).2 ∧ run.Faithful source name := by
  obtain ⟨run, hrun, hregistry, hfaithful⟩ := CoverageRun.ofTree_faithful hname hw hb
  have hexec : ∃ log, (instrumentSource source name).exec s = (.ok run, { s with log := s.log ++ log }) := by
    unfold instrumentSource
    simp only [Action.exec_bind, Action.exec_get, hparser, Action.exec_ofExcept, hparse, htree, hrun,
      Except.mapError, Action.exec_log, Action.exec_pure, List.append_assoc]
    exact ⟨_, rfl⟩
  obtain ⟨log, hlog⟩ := hexec
  exact ⟨run, log, hlog, hregistry, hfaithful⟩

/-! ## A ternary in a block -/

/-- A syntax node as a parser hands it over. -/
def syntaxValue (type : String) (start stop : Int) (fields : List (String × Value)) : Value :=
  .record (("type", .text type) :: ("range", .list [.int start, .int stop]) :: fields)

/-- A script in which the program and its block start together. -/
def ternarySource : Text := "{a?b:c}".toList

def ternaryValue : Value :=
  syntaxValue "Program" 0 7 [("body", .list [syntaxValue "BlockStatement" 0 7 [("body", .list [
    syntaxValue "ConditionalExpression" 1 6 [
      ("test", syntaxValue "Identifier" 1 2 []),
      ("consequent", syntaxValue "Identifier" 3 4 []),
      ("alternate", syntaxValue "Identifier" 5 6 [])]])]])]

def ternaryRoot : Node :=
  .mk (some "Program") (some ⟨0, 7⟩) [(.text "body", .list [syntaxTree "BlockStatement" 0 7 [("body", .list [
    syntaxTree "ConditionalExpression" 1 6 [
      ("test", syntaxTree "Identifier" 1 2 []),
      ("consequent", syntaxTree "Identifier" 3 4 []),
      ("alternate", syntaxTree "Identifier" 5 6 [])]])]])]

theorem ofValue_ternaryValue : Tree.ofValue ternaryValue = .ok (.object ternaryRoot) := rfl

theorem within_ternaryRoot : ternaryRoot.Within ternarySource.length := by decide +kernel

theorem blocksLowest_ternaryRoot : ternaryRoot.BlocksLowest := by decide +kernel

def ternarySession : Session := { parser := some fun _ => .ok ternaryValue }

theorem instrumentSource_faithful_ternary :
    ∃ run log, (instrumentSource ternarySource Probe.defaultName).exec ternarySession =
        (.ok run, { ternarySession with log }) ∧
      run.tracker.registry.size = 4 ∧ run.Faithful ternarySource Probe.defaultName := by
  have hname : Probe.isName Probe.defaultName = true := by decide +kernel
  obtain ⟨run, log, hexec, hregistry, hfaithful⟩ := instrumentSource_faithful (s := ternarySession) hname rfl rfl
    ofValue_ternaryValue within_ternaryRoot blocksLowest_ternaryRoot
  refine ⟨run, log, hexec, ?_, hfaithful⟩
  rw [hregistry]
  rfl

end ScriptCoverage
