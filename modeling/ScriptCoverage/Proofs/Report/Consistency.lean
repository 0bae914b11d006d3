import Mathlib.Algebra.Ring.Int.Defs
import ScriptCoverage.Proofs.Report.Tally

/-!
# Reports agree

The reports of a run count its units in different ways: the plain text and the JSON document take the numbers of the
summary, the records of the document and the markers in the source come one by one from the units, and the lines of the
brief summary count kind by kind. Each kind that occurs has a line, and each unit is of one kind, so the lines add up
(`sum_ofKind`); the order in which markers are put in does not matter for their number (`count_openings`). That every
report says the same is `tallies_agree`.
-/

namespace ScriptCoverage

variable {units : List CoverableUnit} {source : Text}

/-! ## Kinds -/

namespace Tally

/-- To look for units of a kind, those of another one can be left out before. -/
theorem ofKind_other {kind other : UnitKind} (h : other ≠ kind) (units : List CoverableUnit) :
    ofKind (units.filter (·.kind != kind)) other = ofKind units other := by
  rw [ofKind, ofKind, List.filter_filter]
  refine List.filter_congr fun u _ => ?_
  by_cases hu : u.kind = other
  · simp [hu, h]
  · simp [hu]

/-- Units counted kind by kind are all counted, once each, if no kind is left out or comes twice. -/
theorem sum_ofKind (p : CoverableUnit → Bool) {kinds : List UnitKind} (hnodup : kinds.Nodup) :
    ∀ {units : List CoverableUnit}, (∀ u ∈ units, u.kind ∈ kinds) →
      (kinds.map fun kind => ((ofKind units kind).countP p : Int)).sum = units.countP p := by
  induction kinds with
  | nil =>
    intro units hunits
    rw [List.eq_nil_iff_forall_not_mem.2 fun u hu => List.not_mem_nil (hunits u hu)]
    rfl
  | cons kind kinds ih =>
    intro units hunits
    obtain ⟨hkind, hkinds⟩ := List.nodup_cons.1 hnodup
    -- the units of the first kind are counted with it, and the later kinds count the units without them
    have hothers : ∀ u ∈ units.filter (·.kind != kind), u.kind ∈ kinds := by
      intro u hu
      obtain ⟨hmem, hne⟩ := List.mem_filter.1 hu
      exact (List.mem_cons.1 (hunits u hmem)).resolve_left (by simpa using hne)
    have hsum : kinds.map (fun other => ((ofKind units other).countP p : Int)) =
        kinds.map fun other => ((ofKind (units.filter (·.kind != kind)) other).countP p : Int) := by
      refine List.map_congr_left fun other hother => ?_
      have hne : other ≠ kind := fun h => hkind (h.symm ▸ hother : kind ∈ kinds)
      rw [ofKind_other hne]
    have hparts : units.countP p =
        (ofKind units kind).countP p + (units.filter (·.kind != kind)).countP p :=
      List.countP_eq_countP_filter_add units p (·.kind == kind)
    rw [List.map_cons, List.sum_cons, hsum, ih hkinds hothers, hparts, Int.natCast_add]

theorem mem_occurring {kind : UnitKind} : kind ∈ occurring units ↔ ∃ u ∈ units, u.kind = kind := by
  simp [occurring, ofKind, UnitKind.mem_all]

theorem nodup_occurring (units : List CoverableUnit) : (occurring units).Nodup :=
  List.Nodup.filter _ (by decide)

end Tally

/-- Lines for kinds list every kind of the units once, and add up to the numbers of all units. -/
structure KindsAddUp (units : List CoverableUnit) (lines : List (String × Summary)) : Prop where
  nodup : (lines.map (·.1)).Nodup
  mem_iff : ∀ name, name ∈ lines.map (·.1) ↔ ∃ u ∈ units, u.kind.name = name
  executed : (lines.map (·.2.executed)).sum = (Summary.ofUnits units).executed
  total : (lines.map (·.2.total)).sum = (Summary.ofUnits units).total
  nil_iff : lines = [] ↔ units = []

theorem kindsAddUp (units : List CoverableUnit) : KindsAddUp units (Tally.byKind (Report.summary units)) := by
  have hkinds : ∀ u ∈ units, u.kind ∈ Tally.occurring units := fun u hu => Tally.mem_occurring.2 ⟨u, hu, rfl⟩
  have hsum (p : CoverableUnit → Bool) := Tally.sum_ofKind p (Tally.nodup_occurring units) hkinds
  rw [Tally.byKind_summary]
  refine ⟨?_, fun name => ?_, ?_, ?_, ?_⟩
  · rw [List.map_map]
    exact (Tally.nodup_occurring units).map fun _ _ => UnitKind.name_inj.1
  · rw [List.map_map, List.mem_map]
    constructor
    · rintro ⟨kind, hkind, rfl⟩
      obtain ⟨u, hu, rfl⟩ := Tally.mem_occurring.1 hkind
      exact ⟨u, hu, rfl⟩
    · rintro ⟨u, hu, rfl⟩
      exact ⟨u.kind, hkinds u hu, rfl⟩
  · rw [List.map_map]
    exact hsum CoverableUnit.executed
  · rw [List.map_map]
    have hall := hsum fun _ => true
    simp only [List.countP_true] at hall
    exact hall
  · rw [List.map_eq_nil_iff, List.eq_nil_iff_forall_not_mem, List.eq_nil_iff_forall_not_mem]
    constructor
    · exact fun h u hu => h u.kind (hkinds u hu)
    · intro h kind hkind
      obtain ⟨u, hu, -⟩ := Tally.mem_occurring.1 hkind
      exact h u hu

/-! ## Records -/

namespace Spelled

theorem spelledItems_eq_map : ∀ items : List Json, Json.spelledItems items = items.map Json.spelled
  | [] => rfl
  | item :: rest => congrArg (item.spelled :: ·) (spelledItems_eq_map rest)

/-- The document of a run. -/
def ofRun (units : List CoverableUnit) : Spelled :=
  .record
    [("schema_version".toList, .quoted "1.0".toList),
     ("summary".toList, (Summary.ofUnits units).toJson.spelled),
     ("units".toList, .list (units.map fun u => u.toJson.spelled))]

theorem ofText?_json (units : List CoverableUnit) : ofText? (Report.json units) = some (ofRun units) := by
  have hitems := spelledItems_eq_map (units.map CoverableUnit.toJson)
  rw [List.map_map] at hitems
  rw [Report.json, ofText?_write]
  simp only [Json.spelled, Json.spelledMembers, hitems]
  rfl

theorem tally?_ofRun (units : List CoverableUnit) : (ofRun units).tally? = some (Summary.ofUnits units) := by
  have hsummary : (ofRun units).member? "summary" = some (Summary.ofUnits units).toJson.spelled := rfl
  have htotal (s : Summary) : s.toJson.spelled.int? "total_units" = Tally.readInt (toString s.total).toList := rfl
  have hexecuted (s : Summary) : s.toJson.spelled.int? "executed_units" = Tally.readInt (toString s.executed).toList :=
    rfl
  rw [tally?, hsummary, Option.bind_eq_bind, Option.bind_some, htotal, hexecuted, Tally.readInt_toString,
    Tally.readInt_toString]
  rfl

theorem ran_toJson (u : CoverableUnit) : u.toJson.spelled.ran = u.executed := by
  have hcount : u.toJson.spelled.int? "execution_count" = Tally.readInt (toString u.executionCount).toList := rfl
  rw [ran, hcount, Tally.readInt_toString]
  rfl

/-- The records of a run. -/
theorem items?_units (units : List CoverableUnit) :
    ((ofRun units).member? "units").bind items? = some (units.map fun u => u.toJson.spelled) := rfl

theorem countP_ran (units : List CoverableUnit) :
    (units.map fun u => u.toJson.spelled).countP ran = units.countP CoverableUnit.executed := by
  rw [List.countP_map]
  exact List.countP_congr fun u _ => by rw [Function.comp_apply, ran_toJson]

end Spelled

/-! ## Markers -/

/-- No other marker of a style looks like an opening one. -/
def MarkerStyle.TellsOpenings (style : MarkerStyle) : Prop :=
  style.hitOpen ∉ [style.missOpen, style.hitClose, style.missClose] ∧
    style.missOpen ∉ [style.hitOpen, style.hitClose, style.missClose]

instance (style : MarkerStyle) : Decidable style.TellsOpenings := inferInstanceAs (Decidable (_ ∧ _))

section
variable {style : MarkerStyle}

/-- A unit has one opening marker, that of a unit that ran or that of one that did not. -/
theorem count_marker (h : style.TellsOpenings) (u : CoverableUnit) :
    (u.markers.map style.marker).count style.hitOpen = (if u.executed then 1 else 0) ∧
      (u.markers.map style.marker).count style.missOpen = (if u.executed then 0 else 1) := by
  obtain ⟨hhit, hmiss⟩ := h
  simp only [List.mem_cons, List.not_mem_nil, or_false, not_or] at hhit hmiss
  cases hran : u.executed <;>
    simp [CoverableUnit.markers, MarkerStyle.marker, hran, Ne.symm hhit.1, Ne.symm hhit.2.1,
      Ne.symm hhit.2.2, Ne.symm hmiss.1, Ne.symm hmiss.2.1, Ne.symm hmiss.2.2]

/-- There are as many opening markers of either sort as units that ran or did not. -/
theorem count_openings (h : style.TellsOpenings) (units : List CoverableUnit) :
    ((markerEvents units).map style.marker).count style.hitOpen = units.countP CoverableUnit.executed ∧
      ((markerEvents units).map style.marker).count style.missOpen = units.countP (!·.executed) := by
  have hperm := (markerEvents_perm units).map style.marker
  rw [hperm.count_eq, hperm.count_eq]
  clear hperm
  induction units with
  | nil => exact ⟨rfl, rfl⟩
  | cons u rest ih =>
    obtain ⟨hhit, hmiss⟩ := count_marker h u
    rw [List.flatMap_cons, List.map_append, List.count_append, List.count_append, hhit, hmiss, ih.1, ih.2,
      List.countP_cons, List.countP_cons]
    cases u.executed <;> simp [Nat.add_comm]

/-- Pieces of text with markers between them are the text with the markers put in. -/
theorem interleaved_pieces (last : Text) : ∀ pieces : List (Text × MarkerEvent),
    Interleaved (pieces.flatMap (·.1) ++ last) (pieces.map fun piece => style.marker piece.2)
      (pieces.flatMap (fun piece => piece.1 ++ style.marker piece.2) ++ last)
  | [] => by simpa using Interleaved.nil.append last
  | (text, event) :: pieces => by
    simp only [List.flatMap_cons, List.map_cons, List.append_assoc]
    exact (Interleaved.piece _ (interleaved_pieces last pieces)).append text

/-- The markers of the units are put into the escaped source, and nothing else is. -/
theorem interleaved_applyMarkers (h : style.EscapesPieces) (source : Text) (units : List CoverableUnit) :
    Interleaved (style.escape source) ((markerEvents units).map style.marker) (applyMarkers source units style) := by
  obtain ⟨pieces, last, hplaced⟩ : ∃ pieces last, Placed style source 0 (markerEvents units) pieces last :=
    exists_placed h (markerEvents_sorted units) (Int.le_refl 0)
  have hall := hplaced.all_eq
  rw [Text.upTo_zero, h.nil, List.nil_append] at hall
  have hmarkers : pieces.map (fun piece => style.marker piece.2) = (markerEvents units).map style.marker := by
    rw [← hplaced.events_eq, List.map_map]
    rfl
  rw [← hall, ← hmarkers, applyMarkers, hplaced.text_eq]
  exact interleaved_pieces last pieces

end

/-- A report that begins with the lines of the source with markers put into it, as many for units that ran and for units
that did not as a summary says. -/
structure MarksUnits (style : MarkerStyle) (source : Text) (s : Summary) (markers : List Text) (report : Text) :
    Prop where
  listing : ∃ marked, Interleaved (style.escape source) markers marked ∧ numberLines marked style <+: report
  hits : markers.count style.hitOpen = s.executed
  misses : markers.count style.missOpen = s.total - s.executed

theorem marksUnits {style : MarkerStyle} (hescape : style.EscapesPieces) (htells : style.TellsOpenings)
    {report : Text} (h : listing source units style <+: report) :
    MarksUnits style source (Summary.ofUnits units) ((markerEvents units).map style.marker) report := by
  obtain ⟨hhits, hmisses⟩ := count_openings htells units
  refine ⟨⟨_, interleaved_applyMarkers hescape source units, h⟩, ?_, ?_⟩
  · rw [hhits]
    rfl
  · have hlength : units.length = units.countP CoverableUnit.executed + units.countP (!·.executed) := by
      simpa using List.length_eq_countP_add_countP CoverableUnit.executed (l := units)
    rw [hmisses, Summary.ofUnits, hlength]
    simp only
    omega

/-! ## All reports -/

namespace Report

/-- **Reports agree.** Whatever the units of a run are, the plain text, the brief summary and the JSON document state
the numbers of its summary. There are as many records in the document, and as many of them with a positive count. The
lines of the brief summary for single kinds list each kind that occurs once and add up to these numbers, and the markers
in the plain text and in the HTML page open as many units that ran and as many that did not. A document is
written as long as its integers have at most `Numeral.maxDigits` digits, as counts and positions in a script have. -/
theorem tallies_agree (source : Text) (units : List CoverableUnit) :
    Tally.ofText (write .text source units) = some (Summary.ofUnits units) ∧
    Tally.ofSummary (write .summary source units) = some (Summary.ofUnits units) ∧
    (∃ document records, Spelled.ofText? (write .json source units) = some document ∧
      document.tally? = some (Summary.ofUnits units) ∧
      (document.member? "units").bind Spelled.items? = some records ∧
      records.length = (Summary.ofUnits units).total ∧
      records.countP Spelled.ran = (Summary.ofUnits units).executed) ∧
    KindsAddUp units (Tally.byKind (write .summary source units)) ∧
    MarksUnits textStyle source (Summary.ofUnits units) ((markerEvents units).map textStyle.marker)
      (write .text source units) ∧
    MarksUnits htmlStyle source (Summary.ofUnits units) ((markerEvents units).map htmlStyle.marker)
      (write .html source units) := by
  refine ⟨Tally.ofText_text source units, Tally.ofSummary_summary units, ?_, kindsAddUp units, ?_, ?_⟩
  · refine ⟨_, _, Spelled.ofText?_json units, Spelled.tally?_ofRun units, Spelled.items?_units units, ?_, ?_⟩
    · rw [List.length_map]
      rfl
    · rw [Spelled.countP_ran]
      rfl
  · refine marksUnits textStyle_escapesPieces (by decide) ?_
    exact (List.prefix_append _ _).trans (List.prefix_append _ _)
  · exact marksUnits htmlStyle_escapesPieces (by decide) (List.prefix_append _ _)

end Report

end ScriptCoverage
