import ScriptCoverage.Proofs.Probe.Splice
import Mathlib.Algebra.Ring.Nat

/-!
# The ledger of insertions

The ledger of an instrumented script accounts for every character of its text: the source, and for each unit its
probe (`instrument_records`). Where a probe starts is its place in the source, moved by the probes before it
(`ledger_eq_mapIdx`), so the places of the probes ascend and no two probes overlap (`pairwise_ledger`), and the text
is longer than the source by the probes alone (`length_splicedText`). All of this is induction on the units, with
the characters of the source and of the probes that are read already on either side.
-/

namespace ScriptCoverage

/-- The number of characters in the probes of units. -/
def probesLength (name : String) (units : List CoverableUnit) : Nat := (units.map fun u => (u.probe name).length).sum

theorem probesLength_cons (name : String) (u : CoverableUnit) (rest : List CoverableUnit) :
    probesLength name (u :: rest) = (u.probe name).length + probesLength name rest := rfl

/-- The ledger, one unit at a time: the place of a probe in the text is its place in the source, moved by the probes
before it. -/
theorem ledger_eq_mapIdx (name : String) (offset : Int) (units : List CoverableUnit) :
    ledger name offset units = units.mapIdx fun k u =>
      ⟨u.id, u.insertionPoint, u.insertionPoint + (offset + probesLength name (units.take k)), u.probe name⟩ := by
  induction units generalizing offset with
  | nil => rfl
  | cons u rest ih =>
    have hlater : ∀ k, offset + (u.probe name).length + probesLength name (rest.take k) =
        offset + probesLength name ((u :: rest).take (k + 1)) := by
      intro k
      rw [List.take_succ_cons, probesLength_cons]
      omega
    rw [List.mapIdx_cons, ledger, ih]
    simp only [hlater]
    rw [List.take_zero]
    simp [probesLength]

theorem sum_probe_lengths_ledger (name : String) (offset : Int) (units : List CoverableUnit) :
    ((ledger name offset units).map (·.probe.length)).sum = probesLength name units := by
  induction units generalizing offset with
  | nil => rfl
  | cons u rest ih => rw [ledger, List.map_cons, List.sum_cons, ih, probesLength_cons]

variable {source : Text} {name : String} {units : List CoverableUnit}

/-- What follows the cursor grows by the probes. -/
theorem length_splicedText : ∀ {cursor previous : Int}, 0 ≤ cursor → cursor ≤ source.length →
    InOrder source.length cursor previous units →
      ((splicedText source name cursor units).length : Int) = source.length - cursor + probesLength name units := by
  induction units with
  | nil =>
    intro cursor previous h0 hc _
    have hclamp := Text.clamp_of_within h0 hc
    simp only [splicedText, Text.sliceFrom, hclamp, List.length_drop, probesLength, List.map_nil, List.sum_nil]
    omega
  | cons u rest ih =>
    intro cursor previous h0 _ h
    obtain ⟨_, hc, hl, hrest⟩ := h
    have hslice := Text.length_slice h0 hc hl
    have hlater := ih (Int.le_trans h0 hc) hl hrest
    rw [probesLength_cons]
    simp only [splicedText, List.length_append]
    omega

/-- No insertion of what follows the cursor stands before it. -/
theorem le_of_mem_ledger : ∀ {cursor previous offset : Int} {length : Nat}, InOrder length cursor previous units →
    ∀ i ∈ ledger name offset units, cursor + offset ≤ i.instrumentedOffset := by
  induction units with
  | nil => intro _ _ _ _ _ i hi; cases hi
  | cons u rest ih =>
    intro cursor previous offset length h i hi
    obtain ⟨_, hc, _, hrest⟩ := h
    rcases List.mem_cons.1 hi with rfl | hi
    · simp only
      omega
    · have := ih hrest i hi
      omega

/-- Probes do not overlap, and the ledger lists them as they stand. -/
theorem pairwise_ledger : ∀ {cursor previous offset : Int} {length : Nat}, InOrder length cursor previous units →
    (ledger name offset units).Pairwise fun (i j : Insertion) =>
      i.instrumentedOffset + i.probe.length ≤ j.instrumentedOffset := by
  induction units with
  | nil => intro _ _ _ _ _; exact List.Pairwise.nil
  | cons u rest ih =>
    intro cursor previous offset length h
    obtain ⟨_, _, _, hrest⟩ := h
    refine List.pairwise_cons.2 ⟨fun j hj => ?_, ih hrest⟩
    have := le_of_mem_ledger hrest j hj
    simp only
    omega

/-- **The ledger.** If units are instrumented, stripping the probes gives the source back, and the text is longer than
the source by the probes. There is one insertion for each unit, in order: its probe stands where the unit's insertion
point is in the source, and in the text as much further as the probes before it are long. There it can be read, and
the probes follow one another without overlapping. -/
theorem instrument_records {script : Instrumented} (h : instrument source units name = .ok script) :
    script.strip = source ∧
    script.text.length = source.length + (script.insertions.map (·.probe.length)).sum ∧
    (script.insertions = units.mapIdx fun k u =>
      { unitId := u.id
        sourceOffset := if u.shape = .blockStatement then u.start + 1 else u.start
        instrumentedOffset :=
          (if u.shape = .blockStatement then u.start + 1 else u.start) + probesLength name (units.take k)
        probe := u.probe name }) ∧
    (∀ i ∈ script.insertions,
      script.text.slice i.instrumentedOffset (i.instrumentedOffset + i.probe.length) = i.probe) ∧
    script.insertions.Pairwise fun (i j : Insertion) => i.instrumentedOffset + i.probe.length ≤ j.instrumentedOffset := by
  have hputs : ∀ i ∈ script.insertions, script.Puts i := fun i hi => puts_of_instrument h hi
  obtain ⟨horder, rfl⟩ := of_instrument_ok h
  refine ⟨strip_instrument horder, ?_, ?_, fun i hi => ?_, pairwise_ledger horder⟩
  · have hlength : ((splicedText source name 0 units).length : Int) = _ :=
      length_splicedText (Int.le_refl 0) (Int.natCast_nonneg source.length) horder
    rw [sum_probe_lengths_ledger]
    simp only
    omega
  · rw [ledger_eq_mapIdx]
    simp only [Int.zero_add, CoverableUnit.insertionPoint, CoverableUnit.opensWithDelimiter, beq_iff_eq]
  · obtain ⟨_, _, -, hread, -⟩ := hputs i hi
    exact hread

/-- Units of which two have their probes at one place, one reaches beyond a text of four characters, and one starts
at its end. -/
def crowdedUnits : List CoverableUnit :=
  [⟨0, 0, 4, .block, .program, false, [], 0, by decide⟩, ⟨1, 0, 4, .block, .blockStatement, false, [], 0, by decide⟩,
   ⟨2, 1, 9, .ternaryBranch, .other, true, [], 0, by decide⟩,
   ⟨3, 4, 5, .switchCase, .switchCase, false, [], 0, by decide⟩]

theorem instrument_records_crowded : ∃ script, instrument "{ab}".toList crowdedUnits "P" = .ok script ∧
    script.strip = "{ab}".toList ∧ script.text.length = 4 + (5 + 5 + 8 + 5) ∧
    script.insertions.map (fun i => (i.sourceOffset, i.instrumentedOffset)) = [(0, 0), (1, 6), (1, 11), (4, 22)] ∧
    (∀ i ∈ script.insertions,
      script.text.slice i.instrumentedOffset (i.instrumentedOffset + i.probe.length) = i.probe) := by
  have hok : (instrument "{ab}".toList crowdedUnits "P").toOption.isSome = true := by decide +kernel
  cases h : instrument "{ab}".toList crowdedUnits "P" with
  | error e => rw [h] at hok; cases hok
  | ok script =>
    obtain ⟨hstrip, hlength, hinsertions, hread, -⟩ := instrument_records h
    refine ⟨script, rfl, hstrip, ?_, ?_, hread⟩
    · rw [hlength, hinsertions]
      decide +kernel
    · rw [hinsertions]
      decide +kernel

end ScriptCoverage
