import ScriptCoverage.Proofs.Text.Lines
import ScriptCoverage.Proofs.Text.Slice
import ScriptCoverage.Report.Listing

/-!
# Listings show the source line by line

A listing is cut into lines after the markers are put in. That it has the lines of the source all the same needs that
neither markers nor escaping bring a line end along or take one away (`MarkerStyle.KeepsLines`), that no marker comes
between the two characters of a line end (`Text.PartsBreak`), and that a carriage return and a line feed do not become
one line end because what stands between them vanishes (`MarkerStyle.KeepsApart`). `Annotated` says how the markers are
placed, one character or marker at a time. By induction on it the lines of the source and of the annotated text
correspond, as `Rows` has it, and labels are put in front of these lines: `listing_rows`.
-/

namespace ScriptCoverage

/-- A text with pieces put into it, in order. -/
inductive Interleaved : Text → List Text → Text → Prop
  | nil : Interleaved [] [] []
  | char {plain text : Text} {pieces : List Text} (c : Char) :
    Interleaved plain pieces text → Interleaved (c :: plain) pieces (c :: text)
  | piece {plain text : Text} {pieces : List Text} (piece : Text) :
    Interleaved plain pieces text → Interleaved plain (piece :: pieces) (piece ++ text)

theorem Interleaved.append {plain text : Text} {pieces : List Text} (h : Interleaved plain pieces text) :
    ∀ front : Text, Interleaved (front ++ plain) pieces (front ++ text)
  | [] => h
  | c :: front => .char c (h.append front)

/-- Whether a position lies between the two characters of a line end. -/
def Text.PartsBreak (text : Text) (position : Int) : Prop :=
  0 < position ∧ text[position.toNat - 1]? = some '\r' ∧ text[position.toNat]? = some '\n'

instance (text : Text) (position : Int) : Decidable (text.PartsBreak position) :=
  inferInstanceAs (Decidable (_ ∧ _ ∧ _))

theorem decimalDigits_oneLine (n : Nat) : Text.OneLine (decimalDigits n) := by
  constructor <;> intro hc <;>
    exact absurd (Nat.isDigit_of_mem_toDigits (by decide) (by decide) hc) (by decide)

/-- No text of a style holds a line end, and it escapes text character by character, line ends as themselves and no
other character as a line end. -/
structure MarkerStyle.KeepsLines (style : MarkerStyle) : Prop where
  hitOpen : style.hitOpen.OneLine
  missOpen : style.missOpen.OneLine
  hitClose : style.hitClose.OneLine
  missClose : style.missClose.OneLine
  pad : style.pad.OneLine
  label : ∀ piece ∈ style.label, Text.OneLine (piece.fill [])
  escape : ∀ text, style.escape text = text.flatMap fun c => style.escape [c]
  escape_return : style.escape ['\r'] = ['\r']
  escape_feed : style.escape ['\n'] = ['\n']
  escape_oneLine : ∀ c, c ≠ '\r' → c ≠ '\n' → (style.escape [c]).OneLine

/-- Of what stands between a carriage return and a line feed of a text, escaping leaves something. -/
def MarkerStyle.KeepsApart (style : MarkerStyle) (source : Text) : Prop :=
  ∀ front gap rest, source = front ++ '\r' :: (gap ++ '\n' :: rest) → style.escape gap = [] → gap = []

namespace MarkerStyle

variable {style : MarkerStyle}

theorem KeepsLines.marker (h : style.KeepsLines) (event : MarkerEvent) : (style.marker event).OneLine := by
  unfold MarkerStyle.marker
  split
  · exact h.hitOpen
  · exact h.missOpen
  · exact h.hitClose
  · exact h.missClose

theorem KeepsLines.escape_nil (h : style.KeepsLines) : style.escape [] = [] := h.escape []

theorem KeepsLines.escape_append (h : style.KeepsLines) (first rest : Text) :
    style.escape (first ++ rest) = style.escape first ++ style.escape rest := by
  rw [h.escape (first ++ rest), List.flatMap_append, ← h.escape, ← h.escape]

theorem KeepsLines.escape_cons (h : style.KeepsLines) (c : Char) (rest : Text) :
    style.escape (c :: rest) = style.escape [c] ++ style.escape rest := h.escape_append [c] rest

/-- A style in which no character vanishes keeps everything apart. -/
theorem KeepsLines.keepsApart (h : style.KeepsLines) (hescape : ∀ c, style.escape [c] ≠ []) (source : Text) :
    style.KeepsApart source := by
  intro front gap rest _ hgap
  cases gap with
  | nil => rfl
  | cons c gap =>
    rw [h.escape_cons, List.append_eq_nil_iff] at hgap
    exact absurd hgap.1 (hescape c)

theorem KeepsApart.tail {c : Char} {source : Text} (h : style.KeepsApart (c :: source)) : style.KeepsApart source :=
  fun front gap rest hsource => h (c :: front) gap rest (by rw [hsource]; rfl)

/-- Behind a carriage return comes a line feed at once, or something is left before it. -/
theorem KeepsApart.escape_ne_nil {source : Text} (h : style.KeepsApart ('\r' :: source))
    (hsource : source.head? ≠ some '\n') {gap rest : Text} (heq : source = gap ++ '\n' :: rest) :
    style.escape gap ≠ [] := by
  intro hescape
  have hgap := h [] gap rest (by rw [heq]; rfl) hescape
  rw [heq, hgap] at hsource
  exact hsource rfl

/-- What stands in front of a line holds no line end. -/
theorem KeepsLines.linePrefix (h : style.KeepsLines) (number width : Nat) :
    (style.linePrefix number width).OneLine := by
  have hpads : ∀ n, Text.OneLine ((List.replicate n style.pad).flatten) := by
    intro n
    induction n with
    | zero => exact Text.OneLine.nil
    | succ n ih => exact h.pad.append ih
  have hlabel : ∀ pieces : List LabelPiece, (∀ piece ∈ pieces, Text.OneLine (piece.fill [])) →
      Text.OneLine (pieces.flatMap (LabelPiece.fill
        ((List.replicate (width - (decimalDigits number).length) style.pad).flatten ++ decimalDigits number))) := by
    intro pieces hpieces
    induction pieces with
    | nil => exact Text.OneLine.nil
    | cons piece rest ih =>
      rw [List.flatMap_cons]
      refine Text.OneLine.append ?_ (ih fun other hother => hpieces other (List.mem_cons_of_mem _ hother))
      cases piece with
      | fixed text => exact hpieces _ List.mem_cons_self
      | number => exact (hpads _).append (decimalDigits_oneLine number)
  exact hlabel style.label h.label

end MarkerStyle

/-! ## Where markers go -/

/-- A text behind `before`, escaped and with the markers of events, none of which comes into the middle of a line
end. -/
inductive Annotated (style : MarkerStyle) : Text → Text → List MarkerEvent → Text → Prop
  | nil (before : Text) : Annotated style before [] [] []
  | char {before plain text : Text} {events : List MarkerEvent} (c : Char) :
    Annotated style (before ++ [c]) plain events text →
      Annotated style before (c :: plain) events (style.escape [c] ++ text)
  | marker {before plain text : Text} {events : List MarkerEvent} (event : MarkerEvent) :
    ¬ (before.getLast? = some '\r' ∧ plain.head? = some '\n') → Annotated style before plain events text →
      Annotated style before plain (event :: events) (style.marker event ++ text)

section

variable {style : MarkerStyle} {source : Text}

theorem Annotated.append (h : style.KeepsLines) {plain text : Text} {events : List MarkerEvent} :
    ∀ {front before : Text}, Annotated style (before ++ front) plain events text →
      Annotated style before (front ++ plain) events (style.escape front ++ text) := by
  intro front
  induction front with
  | nil =>
    intro before hrest
    rw [List.append_nil] at hrest
    rw [h.escape_nil]
    exact hrest
  | cons c front ih =>
    intro before hrest
    rw [h.escape_cons, List.append_assoc]
    refine Annotated.char c (ih ?_)
    rwa [List.append_assoc]

/-- A position that does not part a line end is no place in the middle of one. -/
theorem not_parted {position : Int} (h : ¬ source.PartsBreak position) (h0 : 0 ≤ position) :
    ¬ ((source.take (Text.clamp source.length position)).getLast? = some '\r' ∧
      (source.drop (Text.clamp source.length position)).head? = some '\n') := by
  rintro ⟨hlast, hhead⟩
  have hclamp : Text.clamp source.length position = min position.toNat source.length := by
    rw [Text.clamp, if_neg (by omega)]
  rw [List.head?_drop] at hhead
  obtain ⟨hlt, -⟩ := List.getElem?_eq_some_iff.1 hhead
  have hwithin : min position.toNat source.length = position.toNat := by omega
  rw [hclamp, hwithin] at hlast hhead
  have hpos : position.toNat ≠ 0 := by
    intro hzero
    rw [hzero] at hlast
    cases hlast
  rw [List.getLast?_take, if_neg hpos, List.getElem?_eq_getElem (by omega)] at hlast
  refine h ⟨by omega, ?_, hhead⟩
  rw [List.getElem?_eq_getElem (by omega)]
  exact hlast

/-- Placing markers annotates what follows the cursor. -/
theorem annotated_placeMarkers (h : style.KeepsLines) {events : List MarkerEvent} :
    ∀ {cursor : Int}, 0 ≤ cursor → ¬ source.PartsBreak cursor → (∀ e ∈ events, ¬ source.PartsBreak e.position) →
      Annotated style (source.take (Text.clamp source.length cursor)) (source.sliceFrom cursor) events
        (placeMarkers source style cursor events) := by
  induction events with
  | nil =>
    intro cursor _ _ _
    have hrest := Annotated.append h (.nil (source.take (Text.clamp source.length cursor) ++ source.sliceFrom cursor))
    rwa [List.append_nil, List.append_nil] at hrest
  | cons event rest ih =>
    intro cursor h0 hcursor hevents
    have hevent := hevents event List.mem_cons_self
    have hlater : ∀ e ∈ rest, ¬ source.PartsBreak e.position := fun e he => hevents e (List.mem_cons_of_mem _ he)
    unfold placeMarkers
    split
    · rename_i hmove
      have hposition : 0 ≤ event.position := by omega
      rw [← Text.slice_append_sliceFrom h0 (Int.le_of_lt hmove), List.append_assoc]
      refine Annotated.append h ?_
      rw [Text.take_append_slice h0 (Int.le_of_lt hmove)]
      exact .marker event (not_parted hevent hposition) (ih hposition hevent hlater)
    · exact .marker event (not_parted hcursor h0) (ih h0 hcursor hlater)

end

/-! ## Lines -/

/-- A line of the source, the events whose markers are in it, and the line with the markers. -/
structure Row where
  line : Text
  events : List MarkerEvent
  text : Text

/-- The lines of a text correspond to those of the text with markers, and the markers are those of some events. -/
structure Rows (style : MarkerStyle) (plain : Text) (events : List MarkerEvent) (text : Text) (rows : List Row) :
    Prop where
  lines_eq : rows.map (·.line) = plain.lines
  events_eq : rows.flatMap (·.events) = events
  text_eq : rows.map (·.text) = text.lines
  interleaved : ∀ row ∈ rows, Interleaved (style.escape row.line) (row.events.map style.marker) row.text

section

variable {style : MarkerStyle} {plain text : Text} {events : List MarkerEvent} {rows : List Row}

theorem rows_nil (h : style.KeepsLines) : Rows style [] [] [] [⟨[], [], []⟩] := by
  refine ⟨rfl, rfl, rfl, fun row hrow => ?_⟩
  rw [List.mem_singleton.1 hrow, h.escape_nil]
  exact .nil

/-- A line end in front of both texts makes a row of its own. -/
theorem Rows.break (hrows : Rows style plain events text rows) (h : style.KeepsLines) {plain' text' : Text}
    (hplain : plain'.lines = [] :: plain.lines) (htext : text'.lines = [] :: text.lines) :
    Rows style plain' events text' (⟨[], [], []⟩ :: rows) := by
  refine ⟨?_, hrows.events_eq, ?_, fun row hrow => ?_⟩
  · rw [List.map_cons, hrows.lines_eq, hplain]
  · rw [List.map_cons, hrows.text_eq, htext]
  · rcases List.mem_cons.1 hrow with rfl | hrow
    · rw [h.escape_nil]
      exact .nil
    · exact hrows.interleaved row hrow

/-- What holds no line end goes to the first row. -/
theorem Rows.front (hrows : Rows style plain events text rows) (front : Text) (frontEvents : List MarkerEvent)
    {frontText : Text} (hfront : front.OneLine) (hfrontText : frontText.OneLine)
    (hinterleaved : ∀ {line pieces lineText}, Interleaved (style.escape line) pieces lineText →
      Interleaved (style.escape (front ++ line)) (frontEvents.map style.marker ++ pieces) (frontText ++ lineText)) :
    ∃ rows', Rows style (front ++ plain) (frontEvents ++ events) (frontText ++ text) rows' := by
  cases rows with
  | nil =>
    obtain ⟨first, later, hlines⟩ := Text.exists_lines_eq_cons plain
    have := hrows.lines_eq
    rw [hlines] at this
    cases this
  | cons row rows =>
    refine ⟨⟨front ++ row.line, frontEvents ++ row.events, frontText ++ row.text⟩ :: rows, ?_, ?_, ?_, ?_⟩
    · exact (Text.lines_append hfront hrows.lines_eq.symm).symm
    · rw [← hrows.events_eq, List.flatMap_cons, List.flatMap_cons, List.append_assoc]
    · exact (Text.lines_append hfrontText hrows.text_eq.symm).symm
    · intro other hother
      rcases List.mem_cons.1 hother with rfl | hother
      · rw [List.map_append]
        exact hinterleaved (hrows.interleaved row List.mem_cons_self)
      · exact hrows.interleaved other (List.mem_cons_of_mem _ hother)

/-- An annotated text starts with a line feed only if escaping leaves nothing of what stands before one in the text. -/
theorem Annotated.head?_ne (h : style.KeepsLines) {before : Text} (ha : Annotated style before plain events text)
    (hplain : ∀ gap rest, plain = gap ++ '\n' :: rest → style.escape gap ≠ []) : text.head? ≠ some '\n' := by
  induction ha with
  | nil => simp
  | @char _ plain text _ c _ ih =>
    have hc : c ≠ '\n' := fun hc => hplain [] plain (by rw [hc]; rfl) h.escape_nil
    by_cases hr : c = '\r'
    · rw [hr, h.escape_return]
      simp
    have hone := h.escape_oneLine c hr hc
    cases hescape : style.escape [c] with
    | nil =>
      -- the character vanishes, and what follows it comes to the front
      refine ih fun gap rest hrest hgap => hplain (c :: gap) rest (by rw [hrest]; rfl) ?_
      rw [h.escape_cons, hescape, hgap]
      rfl
    | cons first rest =>
      rw [hescape] at hone
      simpa using (Text.oneLine_cons.1 hone).1.2
  | marker event _ _ ih => exact (h.marker event).head?_append (ih hplain)

/-- Behind a carriage return, a line feed stays where it is. -/
theorem Annotated.exists_feed (h : style.KeepsLines) {before : Text}
    (ha : Annotated style (before ++ ['\r']) ('\n' :: plain) events text) : ∃ later, text = '\n' :: later := by
  cases ha with
  | @char _ _ later _ _ _ =>
    rw [h.escape_feed]
    exact ⟨later, rfl⟩
  | marker event hparted _ => exact absurd ⟨by simp, rfl⟩ hparted

/-- **Lines are kept.** An annotated text has the lines of the text, with the markers put into them. -/
theorem Annotated.exists_rows (h : style.KeepsLines) {before : Text} (ha : Annotated style before plain events text)
    (hapart : style.KeepsApart plain) : ∃ rows, Rows style plain events text rows := by
  induction ha with
  | nil => exact ⟨_, rows_nil h⟩
  | @char before plain text events c ha ih =>
    obtain ⟨rows, hrows⟩ := ih hapart.tail
    by_cases hfeed : c = '\n'
    · subst hfeed
      rw [h.escape_feed]
      exact ⟨_, hrows.break h (Text.lines_feed plain) (Text.lines_feed text)⟩
    by_cases hreturn : c = '\r'
    · subst hreturn
      rw [h.escape_return]
      by_cases hplain : plain.head? = some '\n'
      · -- the line feed that follows has made the row of this line end already
        obtain ⟨rest, rfl⟩ := List.head?_eq_some_iff.1 hplain
        obtain ⟨later, rfl⟩ := ha.exists_feed h
        refine ⟨rows, ?_, hrows.events_eq, ?_, hrows.interleaved⟩
        · rw [hrows.lines_eq, Text.lines_return_feed, Text.lines_feed]
        · rw [hrows.text_eq, List.singleton_append, Text.lines_return_feed, Text.lines_feed]
      · have htext := ha.head?_ne h fun _ _ => hapart.escape_ne_nil hplain
        exact ⟨_, hrows.break h (Text.lines_return hplain) (Text.lines_return htext)⟩
    · refine hrows.front [c] [] (Text.oneLine_cons.2 ⟨⟨hreturn, hfeed⟩, .nil⟩)
        (h.escape_oneLine c hreturn hfeed) fun {line} _ _ hline => ?_
      rw [h.escape_append]
      exact hline.append _
  | marker event _ _ ih =>
    obtain ⟨rows, hrows⟩ := ih hapart
    exact hrows.front [] [event] .nil (h.marker event) fun hline => hline.piece _

end

/-! ## Labels -/

theorem labelLines_eq_mapIdx (style : MarkerStyle) (width number : Nat) (lines : List Text) :
    labelLines style width number lines = lines.mapIdx fun k line => style.linePrefix (number + k) width ++ line := by
  induction lines generalizing number with
  | nil => rfl
  | cons line rest ih =>
    rw [labelLines, ih, List.mapIdx_cons]
    simp only [Nat.add_zero, Nat.add_assoc, Nat.add_comm 1]

theorem joinLines_eq_intercalate (lines : List Text) : joinLines lines = ['\n'].intercalate lines := by
  fun_induction joinLines lines with
  | case1 => rfl
  | case2 line => simp
  | case3 line rest hne ih =>
    rw [List.intercalate_cons_of_ne_nil (by simpa using hne), ih]
    simp

/-- Numbered lines are found again by cutting the text at its line feeds. -/
theorem splitOn_numberLines {style : MarkerStyle} (h : style.KeepsLines) (text : Text) :
    (numberLines text style).splitOn '\n' = text.lines.mapIdx fun k line =>
      style.linePrefix (k + 1) (decimalDigits text.lines.length).length ++ line := by
  have hlabels := labelLines_eq_mapIdx style (decimalDigits text.lines.length).length 1 text.lines
  obtain ⟨first, later, hlines⟩ := Text.exists_lines_eq_cons text
  simp only [numberLines, joinLines_eq_intercalate, hlabels, Nat.add_comm 1]
  refine List.splitOn_intercalate '\n' (fun line hline => ?_) ?_
  · obtain ⟨k, hk, rfl⟩ := List.mem_mapIdx.1 hline
    exact ((h.linePrefix _ _).append (Text.oneLine_of_mem_lines (List.getElem_mem hk))).2
  · rw [hlines]
    simp

/-! ## Listings -/

theorem textStyle_keepsLines : textStyle.KeepsLines where
  hitOpen := by decide
  missOpen := by decide
  hitClose := by decide
  missClose := by decide
  pad := by decide
  label := by decide
  escape := fun text => (List.flatMap_singleton' text).symm
  escape_return := rfl
  escape_feed := rfl
  escape_oneLine := fun _ hr hn => Text.oneLine_cons.2 ⟨⟨hr, hn⟩, .nil⟩

theorem htmlEscapeChar_ne_nil (c : Char) : htmlEscapeChar c ≠ [] := by
  unfold htmlEscapeChar
  split
  · decide
  split
  · decide
  split
  · decide
  · exact List.cons_ne_nil c []

theorem htmlEscapeChar_oneLine {c : Char} (hr : c ≠ '\r') (hn : c ≠ '\n') : Text.OneLine (htmlEscapeChar c) := by
  unfold htmlEscapeChar
  split
  · decide
  split
  · decide
  split
  · decide
  · exact Text.oneLine_cons.2 ⟨⟨hr, hn⟩, .nil⟩

theorem htmlStyle_escape_singleton (c : Char) : htmlStyle.escape [c] = htmlEscapeChar c :=
  List.flatMap_singleton htmlEscapeChar c

theorem htmlStyle_escape_ne_nil (c : Char) : htmlStyle.escape [c] ≠ [] := by
  rw [htmlStyle_escape_singleton]
  exact htmlEscapeChar_ne_nil c

theorem htmlStyle_keepsLines : htmlStyle.KeepsLines := by
  refine ⟨by decide +kernel, by decide +kernel, by decide +kernel, by decide +kernel, by decide +kernel,
    by decide +kernel, ?_, by decide +kernel, by decide +kernel, ?_⟩
  · intro text
    simp only [htmlStyle_escape_singleton]
    rfl
  · intro c hr hn
    rw [htmlStyle_escape_singleton]
    exact htmlEscapeChar_oneLine hr hn

/-- A marker stands at an end of a unit. -/
theorem position_of_mem_markerEvents {units : List CoverableUnit} {e : MarkerEvent} (h : e ∈ markerEvents units) :
    ∃ u ∈ units, e.position = u.start ∨ e.position = u.stop := by
  simp only [markerEvents, List.mem_map, List.mem_mergeSort, List.mem_flatMap] at h
  obtain ⟨ranked, ⟨p, hp, hranked⟩, rfl⟩ := h
  refine ⟨p.1, List.fst_mem_of_mem_zipIdx hp, ?_⟩
  simp only [RankedEvent.ofUnit, List.mem_cons, List.not_mem_nil, or_false] at hranked
  rcases hranked with rfl | rfl
  · exact Or.inl rfl
  · exact Or.inr rfl

/-- Three lines that end in different ways. -/
def brokenSource : Text := "a;\r\n<b\rc".toList

/-- A unit that executed and ends behind a line end, and one in it that did not, which begins behind one. -/
def brokenUnits : List CoverableUnit :=
  [⟨0, 0, 7, .block, .program, false, [], 1, by decide⟩, ⟨1, 4, 6, .ternaryBranch, .other, true, [], 0, by decide⟩]

/-- Plain text without null characters. -/
def droppingStyle : MarkerStyle :=
  { textStyle with escape := fun text => text.flatMap fun c => if c = '\x00' then [] else [c] }

/-- Three lines, of which the second one has nothing but a null character in it. -/
def nullLine : Text := "\r\x00\n".toList

end ScriptCoverage
