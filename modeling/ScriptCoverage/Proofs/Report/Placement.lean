import ScriptCoverage.Proofs.Report.Event
import ScriptCoverage.Proofs.Text.Slice
import ScriptCoverage.Report.Listing

/-!
# Markers leave the text as it is

Markers are put into a source from left to right with a cursor that never moves back. A position in front of the
source or behind its end, or one that the cursor has passed, moves no text: `placeMarkers_cons` takes all these cases
together. As the text between the markers is escaped piece by piece, the pieces make up the escaped source only in a
style whose escape goes through concatenation (`MarkerStyle.EscapesPieces`). By induction on the markers, what stands
before a marker is then the escaped source up to its position: `exists_placed`, and `applyMarkers_text` for a source
with all markers of its units.
-/

namespace ScriptCoverage

/-- The text before a position; a position in front of the text counts as its start, one behind it as its end. -/
def Text.upTo (text : Text) (position : Int) : Text := text.take (max 0 (min position text.length)).toNat

/-- Escaping a text in pieces is escaping it as a whole. -/
def MarkerStyle.EscapesPieces (style : MarkerStyle) : Prop :=
  ∀ first rest : Text, style.escape (first ++ rest) = style.escape first ++ style.escape rest

namespace Text

theorem upTo_eq_take {position : Int} (text : Text) (h : 0 ≤ position) :
    text.upTo position = text.take (clamp text.length position) := by
  rw [upTo, clamp, if_neg (Int.not_lt.2 h)]
  congr 1
  omega

theorem upTo_zero (text : Text) : text.upTo 0 = [] := by
  rw [upTo, show (max 0 (min 0 (text.length : Int))).toNat = 0 by omega, List.take_zero]

theorem upTo_max_zero (text : Text) (position : Int) : text.upTo (max 0 position) = text.upTo position := by
  rw [upTo, upTo]
  congr 1
  omega

theorem upTo_append_slice {text : Text} {start stop : Int} (h : 0 ≤ start) (hs : start ≤ stop) :
    text.upTo start ++ text.slice start stop = text.upTo stop := by
  rw [upTo_eq_take text h, upTo_eq_take text (Int.le_trans h hs), take_append_slice h hs]

theorem upTo_append_sliceFrom {start : Int} (text : Text) (h : 0 ≤ start) :
    text.upTo start ++ text.sliceFrom start = text := by
  rw [upTo_eq_take text h, sliceFrom, List.take_append_drop]

theorem slice_self (text : Text) (position : Int) : text.slice position position = [] := by
  simp [slice]

end Text

variable {style : MarkerStyle} {source : Text}

theorem MarkerStyle.EscapesPieces.nil (h : style.EscapesPieces) : style.escape [] = [] := by
  have hlength := congrArg List.length (h [] [])
  rw [List.append_nil, List.length_append] at hlength
  exact List.length_eq_zero_iff.1 (by omega)

theorem MarkerStyle.marker_eq (style : MarkerStyle) (event : MarkerEvent) :
    style.marker event = match event.side with
      | .opening => if 0 < event.unit.executionCount then style.hitOpen else style.missOpen
      | .closing => if 0 < event.unit.executionCount then style.hitClose else style.missClose := by
  obtain ⟨position, side, unit⟩ := event
  by_cases h : 0 < unit.executionCount <;> cases side <;> simp [marker, CoverableUnit.executed, h]

/-- A marker comes behind the text up to its position, and the cursor moves there unless it is there already. -/
theorem placeMarkers_cons (h : style.EscapesPieces) (cursor : Int) (event : MarkerEvent) (rest : List MarkerEvent) :
    placeMarkers source style cursor (event :: rest) =
      style.escape (source.slice cursor (max cursor event.position)) ++ style.marker event ++
        placeMarkers source style (max cursor event.position) rest := by
  rw [placeMarkers]
  split
  · rename_i hmove
    rw [Int.max_eq_right (Int.le_of_lt hmove)]
  · rename_i hstay
    rw [Int.max_eq_left (Int.not_lt.1 hstay), Text.slice_self, h.nil, List.nil_append]

/-- The text with markers from `cursor` on, cut into the pieces of text in front of each marker and the text behind
the last one. The pieces up to a marker are the source from the cursor up to the position of the marker, escaped. -/
structure Placed (style : MarkerStyle) (source : Text) (cursor : Int) (events : List MarkerEvent)
    (pieces : List (Text × MarkerEvent)) (last : Text) : Prop where
  events_eq : pieces.map (·.2) = events
  text_eq : placeMarkers source style cursor events =
    pieces.flatMap (fun piece => piece.1 ++ style.marker piece.2) ++ last
  before_eq : ∀ k piece, pieces[k]? = some piece →
    style.escape (source.upTo cursor) ++ (pieces.take (k + 1)).flatMap (·.1) =
      style.escape (source.upTo (max cursor piece.2.position))
  all_eq : style.escape (source.upTo cursor) ++ (pieces.flatMap (·.1) ++ last) = style.escape source

theorem exists_placed (h : style.EscapesPieces) {events : List MarkerEvent}
    (hsorted : events.Pairwise fun e f => e.position ≤ f.position) :
    ∀ {cursor : Int}, 0 ≤ cursor → ∃ pieces last, Placed style source cursor events pieces last := by
  induction events with
  | nil =>
    intro cursor h0
    refine ⟨[], style.escape (source.sliceFrom cursor), rfl, rfl, by simp, ?_⟩
    rw [List.flatMap_nil, List.nil_append, ← h, Text.upTo_append_sliceFrom source h0]
  | cons event rest ih =>
    intro cursor h0
    obtain ⟨hfirst, hrest⟩ := List.pairwise_cons.1 hsorted
    obtain ⟨pieces, last, hplaced⟩ := ih hrest (Int.le_trans h0 (Int.le_max_left cursor event.position))
    have hmove : style.escape (source.upTo cursor) ++
        style.escape (source.slice cursor (max cursor event.position)) =
          style.escape (source.upTo (max cursor event.position)) := by
      rw [← h, Text.upTo_append_slice h0 (Int.le_max_left ..)]
    refine ⟨(style.escape (source.slice cursor (max cursor event.position)), event) :: pieces, last, ?_, ?_, ?_, ?_⟩
    · rw [List.map_cons, hplaced.events_eq]
    · rw [placeMarkers_cons h, hplaced.text_eq, List.flatMap_cons, List.append_assoc _ _ last]
    · intro k piece hpiece
      cases k with
      | zero =>
        rw [List.getElem?_cons_zero, Option.some.injEq] at hpiece
        subst hpiece
        rw [List.take_succ_cons, List.take_zero, List.flatMap_singleton, hmove]
      | succ k =>
        rw [List.getElem?_cons_succ] at hpiece
        have hposition : event.position ≤ piece.2.position := by
          refine hfirst _ ?_
          rw [← hplaced.events_eq]
          exact List.mem_map_of_mem (List.mem_of_getElem? hpiece)
        rw [List.take_succ_cons, List.flatMap_cons, ← List.append_assoc, hmove, hplaced.before_eq k piece hpiece,
          Int.max_assoc, Int.max_eq_right hposition]
    · rw [List.flatMap_cons, List.append_assoc, ← List.append_assoc, hmove, hplaced.all_eq]

/-! ## The styles -/

theorem textStyle_escapesPieces : textStyle.EscapesPieces := fun _ _ => rfl

theorem htmlStyle_escapesPieces : htmlStyle.EscapesPieces := fun _ _ => List.flatMap_append

/-- **Markers leave the text as it is.** In a style whose escape goes through concatenation, as plain text and HTML do,
the annotated source is text with one opening and one closing marker of each unit between, in their order, that tell
whether the unit ran. Wherever the ranges of the units lie, the text before a marker is the escaped source up to the
position of the marker, and all text together is the escaped source. -/
theorem applyMarkers_text : textStyle.EscapesPieces ∧ htmlStyle.EscapesPieces ∧
    ∀ (source : Text) (units : List CoverableUnit) (style : MarkerStyle), style.EscapesPieces →
      (markerEvents units).Perm (units.flatMap CoverableUnit.markers) ∧
      ∃ (pieces : List (Text × MarkerEvent)) (last : Text),
        pieces.map (·.2) = markerEvents units ∧
        applyMarkers source units style =
          pieces.flatMap (fun (text, event) => text ++ match event.side with
            | .opening => if 0 < event.unit.executionCount then style.hitOpen else style.missOpen
            | .closing => if 0 < event.unit.executionCount then style.hitClose else style.missClose) ++ last ∧
        (∀ k piece, pieces[k]? = some piece →
          (pieces.take (k + 1)).flatMap (·.1) = style.escape (source.upTo piece.2.position)) ∧
        pieces.flatMap (·.1) ++ last = style.escape source := by
  refine ⟨textStyle_escapesPieces, htmlStyle_escapesPieces, fun source units style h => ?_⟩
  obtain ⟨pieces, last, hplaced⟩ : ∃ pieces last, Placed style source 0 (markerEvents units) pieces last :=
    exists_placed h (markerEvents_sorted units) (Int.le_refl 0)
  have hstart : style.escape (source.upTo 0) = [] := by rw [Text.upTo_zero, h.nil]
  refine ⟨markerEvents_perm units, pieces, last, hplaced.events_eq, ?_, fun k piece hpiece => ?_, ?_⟩
  · simp only [← style.marker_eq]
    exact hplaced.text_eq
  · have hbefore := hplaced.before_eq k piece hpiece
    rwa [hstart, List.nil_append, Text.upTo_max_zero] at hbefore
  · have hall := hplaced.all_eq
    rwa [hstart, List.nil_append] at hall

/-- Two units that cross, of which one starts in front of a text of three characters and one ends behind it. -/
def outlyingUnits : List CoverableUnit :=
  [⟨0, -3, 2, .block, .program, false, [], 1, by decide⟩, ⟨1, 1, 7, .ternaryBranch, .other, true, [], 0, by decide⟩]

theorem applyMarkers_text_outlying : htmlStyle.EscapesPieces ∧
    ∃ (pieces : List (Text × MarkerEvent)) (last : Text),
      pieces.map (·.2.position) = [-3, 1, 2, 7] ∧
      (pieces.take 1).flatMap (·.1) = [] ∧ (pieces.take 2).flatMap (·.1) = ['a'] ∧
      (pieces.take 3).flatMap (·.1) = "a&lt;".toList ∧ (pieces.take 4).flatMap (·.1) = "a&lt;b".toList ∧
      pieces.flatMap (·.1) ++ last = "a&lt;b".toList := by
  obtain ⟨-, hhtml, htext⟩ := applyMarkers_text
  obtain ⟨-, pieces, last, hevents, -, hbefore, hall⟩ := htext "a<b".toList outlyingUnits htmlStyle hhtml
  have hpositions : pieces.map (·.2.position) = [-3, 1, 2, 7] := by
    have hmap : pieces.map (·.2.position) = (markerEvents outlyingUnits).map (·.position) := by
      rw [← hevents, List.map_map]
      rfl
    have hperm : ((markerEvents outlyingUnits).map (·.position)).Perm [-3, 1, 2, 7] :=
      ((markerEvents_perm outlyingUnits).map _).trans (by decide +kernel)
    rw [hmap]
    refine hperm.eq_of_pairwise (fun _ _ _ _ => Int.le_antisymm) ?_ (by decide)
    exact List.pairwise_map.2 (markerEvents_sorted outlyingUnits)
  have hupTo : ∀ k position, [-3, 1, 2, 7][k]? = some position →
      (pieces.take (k + 1)).flatMap (·.1) = htmlStyle.escape (Text.upTo "a<b".toList position) := by
    intro k position hk
    rw [← hpositions, List.getElem?_map, Option.map_eq_some_iff] at hk
    obtain ⟨piece, hpiece, rfl⟩ := hk
    exact hbefore k piece hpiece
  exact ⟨hhtml, pieces, last, hpositions, hupTo 0 (-3) rfl, hupTo 1 1 rfl, hupTo 2 2 rfl, hupTo 3 7 rfl, hall⟩

end ScriptCoverage
