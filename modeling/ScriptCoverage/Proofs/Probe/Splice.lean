import ScriptCoverage.Probe.Instrument
import ScriptCoverage.Proofs.Text.Slice

/-!
# Splicing and stripping

`splice_of_inOrder`: units whose starts and insertion points do not decrease, with all points in the text,
are spliced without an error, and text and ledger are what `splicedText` and `ledger` say of each unit on its
own. No other units are spliced (`inOrder_of_splice`). `strip_instrument`: stripping the result gives the source
back. `puts_of_instrument`: the probes stand in the text where the ledger says.
-/

namespace ScriptCoverage

/-- Units that can be spliced into a text of `length` characters: their starts do not decrease from
`previous` on, nor do their insertion points from `cursor` on, and the points lie in the text. -/
def InOrder (length : Nat) (cursor previous : Int) : List CoverableUnit → Prop
  | [] => True
  | u :: rest => previous ≤ u.start ∧ cursor ≤ u.insertionPoint ∧ u.insertionPoint ≤ length ∧
    InOrder length u.insertionPoint u.start rest

/-- The source from `cursor` on with the probes of units. -/
def splicedText (source : Text) (name : String) (cursor : Int) : List CoverableUnit → Text
  | [] => source.sliceFrom cursor
  | u :: rest => source.slice cursor u.insertionPoint ++ u.probe name ++ splicedText source name u.insertionPoint rest

/-- The insertions of units, behind probes of `offset` characters. -/
def ledger (name : String) (offset : Int) : List CoverableUnit → List Insertion
  | [] => []
  | u :: rest => ⟨u.id, u.insertionPoint, u.insertionPoint + offset, u.probe name⟩ ::
    ledger name (offset + (u.probe name).length) rest

theorem splice_of_inOrder {source : Text} {name : String} {units : List CoverableUnit} :
    ∀ {cursor previous offset : Int}, InOrder source.length cursor previous units →
      splice source name cursor previous offset units =
        .ok (splicedText source name cursor units, ledger name offset units) := by
  induction units with
  | nil => intro cursor previous offset _; rfl
  | cons u rest ih =>
    intro cursor previous offset h
    obtain ⟨hp, hc, hl, hrest⟩ := h
    have hstart : ¬ u.start < previous := by omega
    have hpoint : ¬ (u.insertionPoint < cursor ∨ (source.length : Int) < u.insertionPoint) := by omega
    simp only [splice, hstart, hpoint, if_false, ih hrest]
    rfl

theorem instrument_of_inOrder {source : Text} {name : String} {units : List CoverableUnit}
    (hname : Probe.isName name = true) (h : InOrder source.length 0 (-1) units) :
    instrument source units name = .ok ⟨source, splicedText source name 0 units, ledger name 0 units⟩ := by
  simp only [instrument, hname, if_true, splice_of_inOrder h]
  rfl

/-- Units that are spliced without an error come in order. -/
theorem inOrder_of_splice {source : Text} {name : String} {units : List CoverableUnit} :
    ∀ {cursor previous offset : Int} {result : Text × List Insertion},
      splice source name cursor previous offset units = .ok result → InOrder source.length cursor previous units := by
  induction units with
  | nil => intro _ _ _ _ _; trivial
  | cons u rest ih =>
    intro cursor previous offset result h
    unfold splice at h
    dsimp only at h
    split at h
    · cases h
    · split at h
      · cases h
      · rename_i hstart hpoint
        cases hrest : splice source name u.insertionPoint u.start (offset + (u.probe name).length) rest with
        | error e => rw [hrest] at h; cases h
        | ok spliced => exact ⟨by omega, by omega, by omega, ih hrest⟩

theorem of_instrument_ok {source : Text} {name : String} {units : List CoverableUnit} {script : Instrumented}
    (h : instrument source units name = .ok script) :
    InOrder source.length 0 (-1) units ∧ script = ⟨source, splicedText source name 0 units, ledger name 0 units⟩ := by
  by_cases hname : Probe.isName name = true
  · have horder : InOrder source.length 0 (-1) units := by
      simp only [instrument, hname, if_true] at h
      cases hsplice : splice source name 0 (-1) 0 units with
      | error e => rw [hsplice] at h; cases h
      | ok spliced => exact inOrder_of_splice hsplice
    rw [instrument_of_inOrder hname horder, Except.ok.injEq] at h
    exact ⟨horder, h.symm⟩
  · simp only [instrument, hname] at h
    cases h

/-- Bounds and an order between any two units make them spliceable. -/
theorem inOrder_of_pairwise {length : Nat} {units : List CoverableUnit}
    (h : units.Pairwise fun u v => u.start ≤ v.start ∧ u.insertionPoint ≤ v.insertionPoint)
    (hl : ∀ u ∈ units, u.insertionPoint ≤ length) :
    ∀ {cursor previous : Int}, (∀ u ∈ units, previous ≤ u.start ∧ cursor ≤ u.insertionPoint) →
      InOrder length cursor previous units := by
  induction units with
  | nil => intro _ _ _; trivial
  | cons u rest ih =>
    intro cursor previous hb
    obtain ⟨hu, hrest⟩ := List.pairwise_cons.1 h
    obtain ⟨h1, h2⟩ := hb u (by simp)
    exact ⟨h1, h2, hl u (by simp), ih hrest (fun v hv => hl v (by simp [hv])) hu⟩

/-! ## The ledger -/

theorem ledger_ids (name : String) (offset : Int) (units : List CoverableUnit) :
    (ledger name offset units).map (·.unitId) = units.map (·.id) := by
  induction units generalizing offset with
  | nil => rfl
  | cons u rest ih => simp [ledger, ih]

/-- An insertion stands at the insertion point of a unit and is its probe. -/
theorem mem_ledger {name : String} {offset : Int} {units : List CoverableUnit} {i : Insertion}
    (h : i ∈ ledger name offset units) :
    ∃ u ∈ units, i.unitId = u.id ∧ i.sourceOffset = u.insertionPoint ∧ i.probe = u.probe name := by
  induction units generalizing offset with
  | nil => cases h
  | cons u rest ih =>
    rcases List.mem_cons.1 h with rfl | h
    · exact ⟨u, by simp, rfl, rfl, rfl⟩
    · obtain ⟨v, hv, hi⟩ := ih h
      exact ⟨v, by simp [hv], hi⟩

theorem exists_mem_ledger (name : String) {units : List CoverableUnit} {u : CoverableUnit} (h : u ∈ units) :
    ∀ offset, ∃ i ∈ ledger name offset units,
      i.unitId = u.id ∧ i.sourceOffset = u.insertionPoint ∧ i.probe = u.probe name := by
  induction units with
  | nil => cases h
  | cons v rest ih =>
    intro offset
    rcases List.mem_cons.1 h with rfl | h
    · exact ⟨_, List.mem_cons_self, rfl, rfl, rfl⟩
    · obtain ⟨i, hi, hu⟩ := ih h (offset + (v.probe name).length)
      exact ⟨i, List.mem_cons_of_mem _ hi, hu⟩

/-! ## Stripping -/

/-- Stripping from behind `before` on: what is left is the source behind `cursor`, if `before` is as long as the
source before it with the probes. -/
theorem stripFrom_splicedText {source : Text} {name : String} {units : List CoverableUnit} :
    ∀ {cursor previous offset : Int} {before : Text}, 0 ≤ cursor → InOrder source.length cursor previous units →
      cursor + offset = before.length →
      stripFrom (before ++ splicedText source name cursor units) (cursor + offset) (ledger name offset units) =
        source.sliceFrom cursor := by
  induction units with
  | nil =>
    intro cursor previous offset before _ _ hlen
    exact Text.sliceFrom_append hlen
  | cons u rest ih =>
    intro cursor previous offset before h0 h hlen
    obtain ⟨_, hc, hl, hrest⟩ := h
    have hslice := Text.length_slice h0 hc hl
    simp only [splicedText, ledger, stripFrom, List.append_assoc]
    rw [Text.slice_append hlen (by omega)]
    -- the probe and the source before it go to what has been read
    have hstrip : ∀ after : Text, before ++ (source.slice cursor u.insertionPoint ++ (u.probe name ++ after)) =
        (before ++ source.slice cursor u.insertionPoint ++ u.probe name) ++ after := by
      intro after; simp only [List.append_assoc]
    rw [hstrip, Int.add_assoc, ih (by omega) hrest (by simp only [List.length_append]; omega)]
    exact Text.slice_append_sliceFrom h0 hc

/-- **Stripping undoes splicing.** -/
theorem strip_instrument {source : Text} {name : String} {units : List CoverableUnit}
    (h : InOrder source.length 0 (-1) units) :
    Instrumented.strip ⟨source, splicedText source name 0 units, ledger name 0 units⟩ = source := by
  have hs : stripFrom ([] ++ splicedText source name 0 units) (0 + 0) (ledger name 0 units) = source.sliceFrom 0 :=
    stripFrom_splicedText (Int.le_refl 0) h rfl
  have h0 : source.sliceFrom 0 = source := by simp [Text.sliceFrom, Text.clamp]
  rw [h0] at hs
  exact hs

/-! ## Where probes stand -/

/-- The probe of an insertion can be read in the text at its place, and what follows it there is, but for later
probes, the source from its place in the source on. -/
def Instrumented.Puts (script : Instrumented) (i : Insertion) : Prop :=
  ∃ earlier later, script.insertions = earlier ++ i :: later ∧
    script.text.slice i.instrumentedOffset (i.instrumentedOffset + i.probe.length) = i.probe ∧
    stripFrom script.text (i.instrumentedOffset + i.probe.length) later = script.source.sliceFrom i.sourceOffset

/-- Every insertion is where it says, in what follows `before`. -/
theorem puts_splicedText {source : Text} {name : String} {units : List CoverableUnit} {i : Insertion} :
    ∀ {cursor previous offset : Int} {before : Text}, 0 ≤ cursor → InOrder source.length cursor previous units →
      cursor + offset = before.length → i ∈ ledger name offset units →
      Instrumented.Puts ⟨source, before ++ splicedText source name cursor units, ledger name offset units⟩ i := by
  induction units with
  | nil => intro _ _ _ _ _ _ _ hi; cases hi
  | cons u rest ih =>
    intro cursor previous offset before h0 h hlen hi
    obtain ⟨_, hc, hl, hrest⟩ := h
    have hslice := Text.length_slice h0 hc hl
    -- the probe and the source before it go to what has been read
    have hread : u.insertionPoint + (offset + (u.probe name).length) =
        (before ++ source.slice cursor u.insertionPoint ++ u.probe name).length := by
      simp only [List.length_append]
      omega
    have htext : before ++ splicedText source name cursor (u :: rest) =
        before ++ source.slice cursor u.insertionPoint ++ u.probe name ++
          splicedText source name u.insertionPoint rest := by
      simp only [splicedText, List.append_assoc]
    rw [htext]
    rcases List.mem_cons.1 hi with rfl | hi
    · refine ⟨[], _, rfl, ?_, ?_⟩
      · simp only
        rw [List.append_assoc (before ++ _)]
        exact Text.slice_append (by simp only [List.length_append]; omega) (by simp only [List.length_append]; omega)
      · simp only
        rw [Int.add_assoc]
        exact stripFrom_splicedText (Int.le_trans h0 hc) hrest hread
    · obtain ⟨earlier, later, hledger, hprobe, hafter⟩ := ih (Int.le_trans h0 hc) hrest hread hi
      exact ⟨_ :: earlier, later, congrArg (_ :: ·) hledger, hprobe, hafter⟩

/-- **The ledger tells the truth** about the text that it comes with. -/
theorem puts_of_instrument {source : Text} {name : String} {units : List CoverableUnit} {script : Instrumented}
    {i : Insertion} (h : instrument source units name = .ok script) (hi : i ∈ script.insertions) : script.Puts i := by
  obtain ⟨horder, rfl⟩ := of_instrument_ok h
  exact puts_splicedText (Int.le_refl 0) horder (show (0 + 0 : Int) = ([] : Text).length from rfl) hi

end ScriptCoverage
