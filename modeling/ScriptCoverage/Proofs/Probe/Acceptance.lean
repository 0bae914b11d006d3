import ScriptCoverage.Proofs.Probe.Splice

/-!
# Which units are accepted

Splicing looks at one unit after another, with the start and the insertion point of the one before at hand.
`inOrder_iff` says the same of all units at once, and `Spliceable` is what it comes to for a whole script: starts and
insertion points do not decrease, and the points lie in the text. Starts alone do not decide: of a block and another
unit with the same start, the block has to come last. Units that do not come in order are refused at the first one
that does not fit behind those before it (`splice_of_not_inOrder`), and the refusal says which one that is.
`instrument_outcome` puts this together.
-/

namespace ScriptCoverage

/-! ## Order -/

/-- Being in order, without the cursor. -/
theorem inOrder_iff {length : Nat} {units : List CoverableUnit} : ∀ {cursor previous : Int},
    InOrder length cursor previous units ↔
      (∀ u ∈ units, previous ≤ u.start ∧ cursor ≤ u.insertionPoint ∧ u.insertionPoint ≤ length) ∧
        units.Pairwise fun u v => u.start ≤ v.start ∧ u.insertionPoint ≤ v.insertionPoint := by
  induction units with
  | nil => intro cursor previous; simp [InOrder]
  | cons u rest ih =>
    intro cursor previous
    simp only [InOrder, ih, List.mem_cons, forall_eq_or_imp, List.pairwise_cons]
    constructor
    · rintro ⟨hp, hc, hl, hall, hpairs⟩
      refine ⟨⟨⟨hp, hc, hl⟩, fun v hv => ?_⟩, fun v hv => ⟨(hall v hv).1, (hall v hv).2.1⟩, hpairs⟩
      obtain ⟨h1, h2, h3⟩ := hall v hv
      exact ⟨Int.le_trans hp h1, Int.le_trans hc h2, h3⟩
    · rintro ⟨⟨⟨hp, hc, hl⟩, hall⟩, hfirst, hpairs⟩
      exact ⟨hp, hc, hl, fun v hv => ⟨(hfirst v hv).1, (hfirst v hv).2, (hall v hv).2.2⟩, hpairs⟩

/-- Units that a text of `length` characters has room for, in an order in which they can be spliced. -/
structure Spliceable (length : Nat) (units : List CoverableUnit) : Prop where
  first : ∀ u ∈ units.head?, -1 ≤ u.start
  starts : units.Pairwise fun u v => u.start ≤ v.start
  points : units.Pairwise fun u v => u.insertionPoint ≤ v.insertionPoint
  within : ∀ u ∈ units, 0 ≤ u.insertionPoint ∧ u.insertionPoint ≤ length

instance (length : Nat) (units : List CoverableUnit) : Decidable (Spliceable length units) :=
  decidable_of_iff ((∀ u ∈ units.head?, -1 ≤ u.start) ∧ (units.Pairwise fun u v => u.start ≤ v.start) ∧
      (units.Pairwise fun u v => u.insertionPoint ≤ v.insertionPoint) ∧
      ∀ u ∈ units, 0 ≤ u.insertionPoint ∧ u.insertionPoint ≤ length)
    ⟨fun ⟨h1, h2, h3, h4⟩ => ⟨h1, h2, h3, h4⟩, fun h => ⟨h.first, h.starts, h.points, h.within⟩⟩

theorem spliceable_iff {length : Nat} {units : List CoverableUnit} :
    Spliceable length units ↔ InOrder length 0 (-1) units := by
  rw [inOrder_iff]
  constructor
  · intro h
    refine ⟨fun u hu => ⟨?_, h.within u hu⟩, h.starts.and h.points⟩
    -- no start is less than the first
    cases units with
    | nil => cases hu
    | cons v rest =>
      have hfirst := h.first v rfl
      rcases List.mem_cons.1 hu with rfl | hu
      · exact hfirst
      · exact Int.le_trans hfirst ((List.pairwise_cons.1 h.starts).1 u hu)
  · rintro ⟨hall, hpairs⟩
    exact ⟨fun u hu => (hall u (List.mem_of_mem_head? hu)).1, hpairs.imp And.left, hpairs.imp And.right,
      fun u hu => (hall u hu).2⟩

/-! ## Refusals -/

/-- The start of the last of some units, or `previous` if there are none. -/
def startBefore (previous : Int) : List CoverableUnit → Int
  | [] => previous
  | u :: rest => startBefore u.start rest

/-- Why a unit is refused whose predecessor starts at `previous`. -/
def CoverableUnit.refusal (u : CoverableUnit) (previous : Int) : InstrumentError :=
  if u.start < previous then .unsorted u.id u.start previous else .misplaced u.insertionPoint u.id

variable {source : Text} {units : List CoverableUnit}

/-- The first unit that does not fit behind those before it is refused. -/
theorem splice_of_not_inOrder (name : String) : ∀ (offset : Int) {cursor previous : Int},
    ¬ InOrder source.length cursor previous units →
    ∃ before u after, units = before ++ u :: after ∧ InOrder source.length cursor previous before ∧
      ¬ InOrder source.length cursor previous (before ++ [u]) ∧
      splice source name cursor previous offset units = .error (u.refusal (startBefore previous before)) := by
  induction units with
  | nil => intro _ _ _ h; exact absurd trivial h
  | cons u rest ih =>
    intro offset cursor previous h
    by_cases hstart : u.start < previous
    · refine ⟨[], u, rest, rfl, trivial, fun hu => ?_, ?_⟩
      · have := hu.1
        omega
      · simp only [splice, hstart, if_true, CoverableUnit.refusal, startBefore]
    · by_cases hpoint : u.insertionPoint < cursor ∨ (source.length : Int) < u.insertionPoint
      · refine ⟨[], u, rest, rfl, trivial, fun hu => ?_, ?_⟩
        · obtain ⟨_, h1, h2, _⟩ := hu
          omega
        · simp only [splice, hstart, hpoint, if_true, if_false, CoverableUnit.refusal, startBefore]
      · -- the unit fits, so a later one does not
        have hrest : ¬ InOrder source.length u.insertionPoint u.start rest :=
          fun hrest => h ⟨by omega, by omega, by omega, hrest⟩
        obtain ⟨before, v, after, rfl, hbefore, hv, hsplice⟩ := ih (offset + (u.probe name).length) hrest
        refine ⟨u :: before, v, after, rfl, ⟨by omega, by omega, by omega, hbefore⟩, fun hu => hv hu.2.2.2, ?_⟩
        simp only [splice, hstart, hpoint, if_false, hsplice, startBefore]
        rfl

/-- A script as a unit, and a block that is all of it. -/
def wholeUnit : CoverableUnit := ⟨0, 0, 3, .block, .program, false, [], 0, by decide⟩

def bracedUnit : CoverableUnit := ⟨1, 0, 3, .block, .blockStatement, false, [], 0, by decide⟩

end ScriptCoverage
