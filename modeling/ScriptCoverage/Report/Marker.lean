import ScriptCoverage.Unit.Basic

/-!
# Coverage markers

An annotated source wraps the text of every unit in a pair of markers that say whether it ran. Markers
at one position are ordered so that they nest: closing ones come first, the innermost (latest opened)
unit first, then opening ones, the furthest reaching first and otherwise in the order of the units.

Specification: section 4.5, the marker events of the report renderer and its styles.
-/

namespace ScriptCoverage

/-- Whether a marker closes or opens a unit; closing comes first. -/
inductive MarkerSide where
  | closing
  | opening
  deriving DecidableEq, Repr

/-- A marker of a unit at a source position. -/
structure MarkerEvent where
  position : Int
  side : MarkerSide
  unit : CoverableUnit
  deriving DecidableEq

/-- A marker event and what decides among the markers at its position. -/
structure RankedEvent where
  event : MarkerEvent
  /-- The other end of the unit, negated: the further away it lies, the earlier the marker comes. -/
  reach : Int
  /-- The place of the unit in the list, negated for closing markers. -/
  order : Int

namespace RankedEvent

def sideRank : MarkerSide → Int
  | .closing => 0
  | .opening => 1

/-- What events are sorted by, from the most to the least significant. -/
def key (e : RankedEvent) : List Int := [e.event.position, sideRank e.event.side, e.reach, e.order]

/-- Lexicographic order of keys. -/
def keyLe : List Int → List Int → Bool
  | [], _ => true
  | _, [] => false
  | a :: as, b :: bs => decide (a < b) || (decide (a = b) && keyLe as bs)

def le (e f : RankedEvent) : Bool := keyLe e.key f.key

/-- The two markers of a unit that has `order` units before it. -/
def ofUnit (unit : CoverableUnit) (order : Nat) : List RankedEvent :=
  [⟨⟨unit.start, .opening, unit⟩, -unit.stop, order⟩,
   ⟨⟨unit.stop, .closing, unit⟩, -unit.start, -(order : Int)⟩]

end RankedEvent

/-- The markers of units in the order in which they are inserted. -/
def markerEvents (units : List CoverableUnit) : List MarkerEvent :=
  let ranked := units.zipIdx.flatMap fun (unit, order) => RankedEvent.ofUnit unit order
  (ranked.mergeSort RankedEvent.le).map (·.event)

/-- A piece of the text in front of a line: fixed text, or the padded line number. -/
inductive LabelPiece where
  | fixed (text : Text)
  | number
  deriving DecidableEq

/-- The texts of markers and line labels in one output format. -/
structure MarkerStyle where
  hitOpen : Text
  missOpen : Text
  hitClose : Text
  missClose : Text
  /-- What stands in front of every line. -/
  label : List LabelPiece := [.number, .fixed [' ', '|', ' ']]
  /-- What fills a line number up to the width of the last one. -/
  pad : Text := [' ']
  /-- How source text is written in the format. -/
  escape : Text → Text := id

namespace MarkerStyle

/-- The text of a marker. -/
def marker (style : MarkerStyle) (event : MarkerEvent) : Text :=
  match event.side, event.unit.executed with
  | .opening, true => style.hitOpen
  | .opening, false => style.missOpen
  | .closing, true => style.hitClose
  | .closing, false => style.missClose

end MarkerStyle

/-- Puts markers into the source from position `cursor` on. The position never moves back: a marker that
belongs before the text written so far is put right behind it. -/
def placeMarkers (source : Text) (style : MarkerStyle) (cursor : Int) : List MarkerEvent → Text
  | [] => style.escape (source.sliceFrom cursor)
  | event :: rest =>
    if cursor < event.position then
      style.escape (source.slice cursor event.position) ++ style.marker event ++
        placeMarkers source style event.position rest
    else style.marker event ++ placeMarkers source style cursor rest

/-- The source with the markers of its units, the text between them escaped. -/
def applyMarkers (source : Text) (units : List CoverableUnit) (style : MarkerStyle) : Text :=
  placeMarkers source style 0 (markerEvents units)

end ScriptCoverage
