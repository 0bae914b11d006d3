import ScriptCoverage.Proofs.Run.Pipeline

/-!
# Operands of probes

The probe of a branch makes the branch the right operand of `||`, and not every expression may stand there: an
assignment, an arrow function and a `yield` would have to be put in parentheses. Discovery does not look at the type
of a branch, so every branch that is not empty gets its probe (`CoverageRun.exists_fronts`), and the probes of a
script have operands exactly if no branch of it is one of the three (`CoverageRun.operands_iff`).
-/

namespace ScriptCoverage

namespace Node

/-- The branches of a conditional expression. -/
def branches (node : Node) : List Node :=
  if node.isSyntax && node.kind == .conditionalExpression then
    ["consequent", "alternate"].filterMap fun name => match node.field? name with
      | some (.object branch) => some branch
      | _ => none
  else []

/-- Whether the text of an expression may follow `||` as it is. -/
def IsOperand (node : Node) : Prop :=
  node.typeName ∉ [some "AssignmentExpression", some "ArrowFunctionExpression", some "YieldExpression"]

instance (node : Node) : Decidable node.IsOperand :=
  inferInstanceAs (Decidable (_ ∉ _))

/-- A branch with a range is a candidate, whatever its type. -/
theorem mem_candidates_of_mem_branches {node branch : Node} {range : Span} (h : branch ∈ node.branches)
    (hr : branch.range? = some range) : ⟨range, .ternaryBranch, branch.kind, true⟩ ∈ node.candidates := by
  unfold branches at h
  split at h
  · rename_i hnode
    simp only [Bool.and_eq_true, beq_iff_eq] at hnode
    obtain ⟨name, hname, hfield⟩ := List.mem_filterMap.1 h
    have hbranch : node.branch? name = some ⟨range, .ternaryBranch, branch.kind, true⟩ := by
      split at hfield
      · rename_i child hf
        cases hfield
        unfold range? at hr
        split at hr
        · rename_i hs
          simp only [branch?, hf, hs, if_true, hr, Option.map_some]
        · cases hr
      · cases hfield
    simp only [candidates, hnode.1, hnode.2, if_true]
    simp only [List.mem_cons, List.not_mem_nil, or_false] at hname
    rcases hname with rfl | rfl
    · exact List.mem_append_left _ (Option.mem_toList.2 hbranch)
    · exact List.mem_append_right _ (Option.mem_toList.2 hbranch)
  · cases h

end Node

namespace CoverageRun

/-- An insertion puts a probe in expression form directly in front of the text of a branch. -/
structure Fronts (run : CoverageRun) (i : Insertion) (branch : Node) : Prop where
  mem : i ∈ run.instrumented.insertions
  puts : run.instrumented.Puts i
  probe_eq : i.probe = (s!"{run.probeName}({i.unitId})" ++ " || ").toList
  text : ∃ range, branch.range? = some range ∧ range.start < range.stop ∧ i.sourceOffset = range.start

variable {source : Text} {name : String} {root : Node} {run : CoverageRun}

/-- **Every branch with a text gets its probe**, unless a brace opens it. -/
theorem exists_fronts (h : ofTree source name root = .ok run) {node branch : Node} {range : Span}
    (hnode : node ∈ root.walk) (hbranch : branch ∈ node.branches) (hrange : branch.range? = some range)
    (hpos : range.start < range.stop) (hkind : branch.kind ≠ .blockStatement) :
    ∃ u ∈ run.tracker.registry.units, u.candidate = ⟨range, .ternaryBranch, branch.kind, true⟩ ∧
      ∃ i, i.unitId = u.id ∧ run.Fronts i branch := by
  obtain ⟨script, hinstrument, rfl⟩ := exists_of_ofTree_ok h
  obtain ⟨u, hu, hcandidate⟩ := Registry.exists_mem_discover { source } (List.mem_flatMap.2 ⟨node, hnode,
    Node.mem_candidates_of_mem_branches hbranch hrange⟩) hpos
  have hledger : script.insertions = ledger name 0 (Registry.discover { source } root).1 := by
    rw [(of_instrument_ok hinstrument).2]
  obtain ⟨i, hi, hid, hpoint, hprobe⟩ := exists_mem_ledger name hu 0
  rw [← hledger] at hi
  have hshape : u.shape = branch.kind := congrArg Candidate.shape hcandidate
  have hstart : u.start = range.start := congrArg (·.span.start) hcandidate
  have hexpression : u.isExpression = true := congrArg Candidate.isExpression hcandidate
  refine ⟨u, ?_, hcandidate, i, hid, hi, puts_of_instrument hinstrument hi, ?_, range, hrange, hpos, ?_⟩
  · exact (Registry.discover_perm source root).mem_iff.1 hu
  · rw [hprobe, hid, CoverableUnit.probe, if_pos hexpression]
  · rw [hpoint, u.insertionPoint_eq, if_neg (hshape ▸ hkind), hstart]

/-- No brace opens the text of the three types. -/
theorem kind_ne_block {branch : Node} (h : ¬ branch.IsOperand) : branch.kind ≠ .blockStatement := by
  unfold Node.IsOperand at h
  simp only [List.mem_cons, List.not_mem_nil, or_false, not_not] at h
  unfold Node.kind
  rcases h with h | h | h <;> rw [h] <;> decide

/-- **Operands of probes.** Every branch with a text that no brace opens gets a probe of its own in front of it,
whatever its type. So what follows the probes of branches may follow `||` exactly if this is so of all branches that
have a text. -/
theorem operands_iff (h : ofTree source name root = .ok run) :
    (∀ node ∈ root.walk, ∀ branch ∈ node.branches, ∀ range, branch.range? = some range → range.start < range.stop →
      branch.kind ≠ .blockStatement → ∃ u ∈ run.tracker.registry.units,
        u.candidate = ⟨range, .ternaryBranch, branch.kind, true⟩ ∧ ∃ i, i.unitId = u.id ∧ run.Fronts i branch) ∧
    ((∀ node ∈ root.walk, ∀ branch ∈ node.branches, ∀ i, run.Fronts i branch → branch.IsOperand) ↔
      ∀ node ∈ root.walk, ∀ branch ∈ node.branches, ∀ range, branch.range? = some range →
        range.start < range.stop → branch.IsOperand) := by
  refine ⟨fun node hnode branch hbranch range => exists_fronts h hnode hbranch, ?_, ?_⟩
  · intro hall node hnode branch hbranch range hrange hpos
    by_contra hnot
    obtain ⟨-, -, -, i, -, hfronts⟩ := exists_fronts h hnode hbranch hrange hpos (kind_ne_block hnot)
    exact hnot (hall node hnode branch hbranch i hfronts)
  · intro hall node hnode branch hbranch i hfronts
    obtain ⟨range, hrange, hpos, -⟩ := hfronts.text
    exact hall node hnode branch hbranch range hrange hpos

/-- In a script whose branches are names, they follow their probes rightly. -/
theorem operands_ternary : ∃ run, ofTree ternarySource Probe.defaultName ternaryRoot = .ok run ∧
    ∀ node ∈ ternaryRoot.walk, ∀ branch ∈ node.branches, ∀ i, run.Fronts i branch → branch.IsOperand := by
  have hname : Probe.isName Probe.defaultName = true := by decide +kernel
  obtain ⟨run, hrun, -⟩ := ofTree_faithful hname within_ternaryRoot blocksLowest_ternaryRoot
  have hoperands : ∀ node ∈ ternaryRoot.walk, ∀ branch ∈ node.branches, branch.IsOperand := by decide +kernel
  exact ⟨run, hrun, (operands_iff hrun).2.2 fun node hnode branch hbranch _ _ _ => hoperands node hnode branch hbranch⟩

/-- A script with an assignment in a branch. -/
def assignmentSource : Text := "a?b=1:c".toList

def assignmentRoot : Node :=
  .mk (some "Program") (some ⟨0, 7⟩) [(.text "body", .list [syntaxTree "ConditionalExpression" 0 7 [
    ("test", syntaxTree "Identifier" 0 1 []),
    ("consequent", syntaxTree "AssignmentExpression" 2 5 []),
    ("alternate", syntaxTree "Identifier" 6 7 [])]])]

/-- The assignment becomes an operand, which it may not be. -/
theorem not_operands_assignment : ∃ run, ofTree assignmentSource Probe.defaultName assignmentRoot = .ok run ∧
    run.instrumented.text =
      "__tailwindcov_track__(0);a?__tailwindcov_track__(1) || b=1:__tailwindcov_track__(2) || c".toList ∧
    ¬ ∀ node ∈ assignmentRoot.walk, ∀ branch ∈ node.branches, ∀ i, run.Fronts i branch → branch.IsOperand := by
  have hbranch : ∃ node ∈ assignmentRoot.walk, ∃ branch ∈ node.branches, ∃ range ∈ branch.range?,
      range.start < range.stop ∧ ¬ branch.IsOperand := by decide +kernel
  obtain ⟨node, hnode, branch, hmem, range, hrange, hpos, hnot⟩ := hbranch
  obtain ⟨run, hrun, -⟩ := ofTree_faithful (show Probe.isName Probe.defaultName = true by decide +kernel)
    (show assignmentRoot.Within assignmentSource.length by decide +kernel)
    (show assignmentRoot.BlocksLowest by decide +kernel)
  refine ⟨run, hrun, ?_, fun hall => ?_⟩
  · obtain ⟨script, hscript, rfl⟩ := exists_of_ofTree_ok hrun
    -- the units are found in source order
    rw [Registry.discover_units, Registry.sorted, List.mergeSort_of_pairwise (by decide +kernel)] at hscript
    rw [(of_instrument_ok hscript).2]
    decide +kernel
  · obtain ⟨-, -, -, i, -, hfronts⟩ := exists_fronts hrun hnode hmem hrange hpos (kind_ne_block hnot)
    exact hnot (hall node hnode branch hmem i hfronts)

end CoverageRun

end ScriptCoverage
