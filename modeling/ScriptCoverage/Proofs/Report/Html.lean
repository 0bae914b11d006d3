import ScriptCoverage.Proofs.Report.Listing
import ScriptCoverage.Proofs.Report.Placement

/-!
# Scripts cannot break a page

An HTML listing has the text of the script in it, which may hold tags and entities of its own. `Html.Marked` is a
grammar of the listing: a text made of tags of the style, entities and other characters (`Html.Piece`), with the sides
of the tags in order. A text of this grammar has brackets in tags only and ampersands in entities only
(`Marked.inTag`, `Marked.exists_entity`), and the tags that can be read in it are those it was made with
(`Marked.occurrences_eq`). Escaped text and markers are in the grammar, and so is each of the lines that an annotated
source is cut into, although a `span` may end on a later line (`Marked.exists_rows`). Labels open and close a `span`
at once, so they do not change which prefixes have more closing than opening tags: `listing_unbroken`.
-/

namespace ScriptCoverage

namespace Html

/-! ## Tags and entities in a text -/

/-- The tags of HTML listings. -/
def tagsOf : MarkerSide → List Text
  | .opening =>
    ["<span class=\"tailwind-covered\">".toList, "<span class=\"tailwind-missed\">".toList,
      "<span class=\"tailwind-lineno\">".toList]
  | .closing => ["</span>".toList]

/-- The entities of HTML listings. -/
def entities : List Text := ["&amp;".toList, "&lt;".toList, "&gt;".toList, "&nbsp;".toList]

/-- In how many places of a text one of some pieces can be read. -/
def occurrences (pieces : List Text) (text : Text) : Nat :=
  text.tails.countP fun tail => pieces.any fun piece => piece.isPrefixOf tail

/-- The character at a position belongs to a tag. -/
def InTag (page : Text) (position : Nat) : Prop :=
  ∃ side, ∃ tag ∈ tagsOf side, ∃ before after, page = before ++ (tag ++ after) ∧
    before.length ≤ position ∧ position < before.length + tag.length

/-- The first `n` characters end inside a tag. -/
def EndsInTag (page : Text) (n : Nat) : Prop :=
  ∃ side, ∃ tag ∈ tagsOf side, ∃ before after, page = before ++ (tag ++ after) ∧
    before.length < n ∧ n < before.length + tag.length

theorem EndsInTag.append {page : Text} {n : Nat} (h : EndsInTag page n) (front : Text) :
    EndsInTag (front ++ page) (front.length + n) := by
  obtain ⟨side, tag, htag, before, after, rfl, hle, hlt⟩ := h
  refine ⟨side, tag, htag, front ++ before, after, (List.append_assoc ..).symm, ?_, ?_⟩
  all_goals rw [List.length_append]; omega

/-! ## The grammar -/

/-- What a page is made of: a character that HTML reads as itself, an entity, or a tag. -/
inductive Piece : Text → Option MarkerSide → Prop
  | char {c : Char} (plain : c ≠ '<' ∧ c ≠ '>' ∧ c ≠ '&') : Piece [c] none
  | entity {entity : Text} (mem : entity ∈ entities) : Piece entity none
  | tag {side : MarkerSide} {tag : Text} (mem : tag ∈ tagsOf side) : Piece tag (some side)

/-- A text made of pieces, with the sides of its tags in order. -/
inductive Marked : Text → List MarkerSide → Prop
  | nil : Marked [] []
  | cons {piece text : Text} {side? : Option MarkerSide} {sides : List MarkerSide} :
    Piece piece side? → Marked text sides → Marked (piece ++ text) (side?.toList ++ sides)

variable {text page piece : Text} {side? : Option MarkerSide} {sides : List MarkerSide}

theorem Piece.marked (h : Piece piece side?) : Marked piece side?.toList := by
  have := Marked.cons h .nil
  rwa [List.append_nil, List.append_nil] at this

theorem Marked.append {later : Text} {laterSides : List MarkerSide} (h : Marked text sides)
    (hlater : Marked later laterSides) : Marked (text ++ later) (sides ++ laterSides) := by
  induction h with
  | nil => exact hlater
  | cons hpiece _ ih =>
    rw [List.append_assoc, List.append_assoc]
    exact .cons hpiece ih

theorem marked_of_plain (h : ∀ c ∈ text, c ≠ '<' ∧ c ≠ '>' ∧ c ≠ '&') : Marked text [] := by
  induction text with
  | nil => exact .nil
  | cons c rest ih =>
    exact .cons (.char (h c List.mem_cons_self)) (ih fun d hd => h d (List.mem_cons_of_mem _ hd))

theorem bracket_not_mem_entity : ∀ entity ∈ entities, '<' ∉ entity ∧ '>' ∉ entity := by
  decide

theorem ampersand_of_entity : ∀ entity ∈ entities, entity.head? = some '&' ∧ '&' ∉ entity.tail := by
  decide

theorem ampersand_not_mem_tag : ∀ side, ∀ tag ∈ tagsOf side, '&' ∉ tag := by
  rintro (_ | _) <;> decide

theorem bracket_of_tag : ∀ side, ∀ tag ∈ tagsOf side, tag.head? = some '<' ∧ '<' ∉ tag.tail := by
  rintro (_ | _) <;> decide

theorem side_unique : ∀ side side', ∀ tag ∈ tagsOf side, ∀ other ∈ tagsOf side',
    other <+: tag ∨ tag <+: other → side = side' := by
  rintro (_ | _) (_ | _) <;> decide

theorem oneLine_of_entity : ∀ entity ∈ entities, Text.OneLine entity := by
  decide

theorem oneLine_of_tag : ∀ side, ∀ tag ∈ tagsOf side, Text.OneLine tag := by
  rintro (_ | _) <;> decide

/-- A piece with a bracket is a tag. -/
theorem Piece.bracket (h : Piece piece side?) {c : Char} (hc : c = '<' ∨ c = '>') (hmem : c ∈ piece) :
    ∃ side, side? = some side ∧ piece ∈ tagsOf side := by
  cases h with
  | char plain =>
    rw [List.mem_singleton] at hmem
    subst hmem
    exact (hc.elim plain.1 plain.2.1).elim
  | entity mem =>
    obtain ⟨hopen, hclose⟩ := bracket_not_mem_entity _ mem
    rcases hc with rfl | rfl
    · exact absurd hmem hopen
    · exact absurd hmem hclose
  | tag mem => exact ⟨_, rfl, mem⟩

/-- A piece with an ampersand is an entity, which starts with it. -/
theorem Piece.ampersand (h : Piece piece side?) {position : Nat} (hmem : piece[position]? = some '&') :
    position = 0 ∧ piece ∈ entities := by
  cases h with
  | char plain =>
    rw [List.getElem?_singleton] at hmem
    split at hmem
    · exact absurd (Option.some.inj hmem) plain.2.2
    · cases hmem
  | entity mem =>
    obtain ⟨hhead, htail⟩ := ampersand_of_entity _ mem
    obtain ⟨rest, rfl⟩ := List.head?_eq_some_iff.1 hhead
    cases position with
    | zero => exact ⟨rfl, mem⟩
    | succ position => exact absurd (List.mem_of_getElem? (List.getElem?_cons_succ ▸ hmem)) htail
  | tag mem => exact absurd (List.mem_of_getElem? hmem) (ampersand_not_mem_tag _ _ mem)

/-- Every character of a text is a character of one of its pieces. -/
theorem Marked.exists_piece (h : Marked page sides) : ∀ {position : Nat} {c : Char}, page[position]? = some c →
    ∃ before piece side? after k, Piece piece side? ∧ page = before ++ (piece ++ after) ∧
      position = before.length + k ∧ piece[k]? = some c := by
  induction h with
  | nil =>
    intro position c hmem
    cases hmem
  | @cons first text side? sides hfirst _ ih =>
    intro position c hmem
    by_cases hlt : position < first.length
    · rw [List.getElem?_append_left hlt] at hmem
      exact ⟨[], first, side?, text, position, hfirst, rfl, (Nat.zero_add position).symm, hmem⟩
    · have hle := Nat.not_lt.1 hlt
      rw [List.getElem?_append_right hle] at hmem
      obtain ⟨before, piece, side?, after, k, hpiece, rfl, hposition, hk⟩ := ih hmem
      refine ⟨first ++ before, piece, side?, after, k, hpiece, (List.append_assoc ..).symm, ?_, hk⟩
      rw [List.length_append]
      omega

/-- Brackets are in tags only. -/
theorem Marked.inTag (h : Marked page sides) {position : Nat} {c : Char} (hc : c = '<' ∨ c = '>')
    (hmem : page[position]? = some c) : InTag page position := by
  obtain ⟨before, tag, side?, after, k, hpiece, rfl, rfl, hk⟩ := h.exists_piece hmem
  obtain ⟨side, -, htag⟩ := hpiece.bracket hc (List.mem_of_getElem? hk)
  obtain ⟨hlt, -⟩ := List.getElem?_eq_some_iff.1 hk
  exact ⟨side, tag, htag, before, after, rfl, Nat.le_add_right .., Nat.add_lt_add_left hlt _⟩

/-- Every ampersand starts an entity. -/
theorem Marked.exists_entity (h : Marked page sides) {position : Nat} (hmem : page[position]? = some '&') :
    ∃ entity ∈ entities, entity <+: page.drop position := by
  obtain ⟨before, entity, side?, after, k, hpiece, rfl, rfl, hk⟩ := h.exists_piece hmem
  obtain ⟨rfl, hentity⟩ := hpiece.ampersand hk
  refine ⟨entity, hentity, ?_⟩
  rw [Nat.add_zero, List.drop_left]
  exact List.prefix_append entity after

/-! ## Reading tags -/

theorem occurrences_cons (pieces : List Text) (c : Char) (text : Text) :
    occurrences pieces (c :: text) =
      (if pieces.any (fun piece => piece.isPrefixOf (c :: text)) then 1 else 0) + occurrences pieces text := by
  rw [Nat.add_comm]
  exact List.countP_cons

/-- No tag can be read where no bracket opens one. -/
theorem occurrences_of_not_mem (side : MarkerSide) {front : Text} (h : '<' ∉ front) (text : Text) :
    occurrences (tagsOf side) (front ++ text) = occurrences (tagsOf side) text := by
  induction front with
  | nil => rfl
  | cons c front ih =>
    rw [List.mem_cons, not_or] at h
    have hnone : (tagsOf side).any (fun tag => tag.isPrefixOf (c :: (front ++ text))) = false := by
      rw [List.any_eq_false]
      intro tag htag hprefix
      obtain ⟨rest, rfl⟩ := List.head?_eq_some_iff.1 (bracket_of_tag side tag htag).1
      exact h.1 (List.cons_prefix_cons.1 (List.isPrefixOf_iff_prefix.1 hprefix)).1
    rw [List.cons_append, occurrences_cons, hnone, ih h.2]
    simp

/-- In front of a text, a tag can be read once, as a tag of its side. -/
theorem occurrences_tag {side : MarkerSide} {tag : Text} (h : tag ∈ tagsOf side) (side' : MarkerSide) (text : Text) :
    occurrences (tagsOf side') (tag ++ text) =
      (if side = side' then 1 else 0) + occurrences (tagsOf side') text := by
  obtain ⟨hhead, htail⟩ := bracket_of_tag side tag h
  obtain ⟨rest, rfl⟩ := List.head?_eq_some_iff.1 hhead
  rw [List.tail_cons] at htail
  have hread : (tagsOf side').any (fun other => other.isPrefixOf ('<' :: (rest ++ text))) = decide (side = side') := by
    by_cases hside : side = side'
    · subst hside
      rw [decide_eq_true rfl, List.any_eq_true]
      exact ⟨_, h, List.isPrefixOf_iff_prefix.2 (List.prefix_append ('<' :: rest) text)⟩
    · rw [decide_eq_false hside, List.any_eq_false]
      intro other hother hprefix
      refine hside (side_unique side side' _ h other hother ?_)
      exact List.prefix_or_prefix_of_prefix (List.isPrefixOf_iff_prefix.1 hprefix) (List.prefix_append ('<' :: rest) text)
  rw [List.cons_append, occurrences_cons, hread, occurrences_of_not_mem side' htail]
  simp only [decide_eq_true_eq]

/-- The tags that can be read in a text are those that it is made of. -/
theorem Marked.occurrences_eq (h : Marked text sides) {plain : Text} (hplain : '<' ∉ plain) (side : MarkerSide) :
    occurrences (tagsOf side) (text ++ plain) = sides.count side := by
  induction h with
  | nil =>
    rw [List.nil_append, ← List.append_nil plain, occurrences_of_not_mem side hplain]
    cases side <;> decide
  | @cons piece text side? sides hpiece _ ih =>
    rw [List.append_assoc, List.count_append, ← ih]
    cases hpiece with
    | char hc =>
      rw [occurrences_of_not_mem side (by simpa using hc.1.symm)]
      simp
    | entity mem =>
      rw [occurrences_of_not_mem side (bracket_not_mem_entity _ mem).1]
      simp
    | tag mem =>
      rw [occurrences_tag mem]
      simp [List.count_singleton]

/-- What is in front of a position that is not inside a tag is made of pieces, but for the beginning of an entity. -/
theorem Marked.exists_take (h : Marked page sides) : ∀ {n : Nat}, ¬ EndsInTag page n →
    ∃ front plain m, page.take n = front ++ plain ∧ Marked front (sides.take m) ∧ '<' ∉ plain := by
  induction h with
  | nil => exact fun _ => ⟨[], [], 0, List.take_nil, .nil, List.not_mem_nil⟩
  | @cons piece text side? sides hpiece _ ih =>
    intro n hn
    by_cases hlt : n < piece.length
    · refine ⟨[], piece.take n, 0, by rw [List.take_append_of_le_length (Nat.le_of_lt hlt)]; rfl, .nil, fun hmem => ?_⟩
      obtain ⟨side, -, htag⟩ := hpiece.bracket (Or.inl rfl) (List.mem_of_mem_take hmem)
      have hpos : 0 < n := by
        rcases Nat.eq_zero_or_pos n with rfl | hpos
        · cases hmem
        · exact hpos
      exact hn ⟨side, piece, htag, [], text, rfl, hpos, by simpa using hlt⟩
    · have hle := Nat.not_lt.1 hlt
      have hlater : ¬ EndsInTag text (n - piece.length) := by
        intro hends
        have := hends.append piece
        rw [Nat.add_sub_cancel' hle] at this
        exact hn this
      obtain ⟨front, plain, m, htake, hfront, hplain⟩ := ih hlater
      refine ⟨piece ++ front, plain, side?.toList.length + m, ?_, ?_, hplain⟩
      · rw [List.take_append, List.take_of_length_le hle, htake, List.append_assoc]
      · rw [List.take_length_add_append]
        exact .cons hpiece hfront

/-! ## The pieces of a listing -/

theorem marked_escape (text : Text) : Marked (htmlStyle.escape text) [] := by
  induction text with
  | nil => exact .nil
  | cons c rest ih =>
    have hchar : Marked (htmlEscapeChar c) [] := by
      unfold htmlEscapeChar
      split
      · exact (Piece.entity (by decide)).marked
      split
      · exact (Piece.entity (by decide)).marked
      split
      · exact (Piece.entity (by decide)).marked
      · rename_i hamp hlt hgt
        exact (Piece.char ⟨hlt, hgt, hamp⟩).marked
    exact hchar.append ih

theorem marked_marker (event : MarkerEvent) : Marked (htmlStyle.marker event) [event.side] := by
  rw [MarkerStyle.marker_eq]
  split <;> rename_i hside <;> rw [hside]
  · split <;> exact (Piece.tag (by decide)).marked
  · split <;> exact (Piece.tag (by decide)).marked

theorem marked_placeMarkers (source : Text) (events : List MarkerEvent) :
    ∀ cursor, Marked (placeMarkers source htmlStyle cursor events) (events.map (·.side)) := by
  induction events with
  | nil => exact fun _ => marked_escape _
  | cons event rest ih =>
    intro cursor
    rw [placeMarkers_cons htmlStyle_escapesPieces]
    exact ((marked_escape _).append (marked_marker event)).append (ih _)

/-- A label opens a tag and closes it. -/
theorem marked_linePrefix (number width : Nat) : Marked (htmlStyle.linePrefix number width) [.opening, .closing] := by
  have hpads : ∀ n, Marked (List.replicate n htmlStyle.pad).flatten [] := by
    intro n
    induction n with
    | zero => exact .nil
    | succ n ih => exact .cons (.entity (by decide)) ih
  have hdigits : Marked (decimalDigits number) [] := by
    refine marked_of_plain fun c hc => ?_
    have := Nat.isDigit_of_mem_toDigits (by decide) (by decide) hc
    refine ⟨?_, ?_, ?_⟩ <;> rintro rfl <;> exact absurd this (by decide)
  have hopen : Marked "<span class=\"tailwind-lineno\">".toList [.opening] := (Piece.tag (by decide)).marked
  have hclose : Marked ("</span>".toList ++ []) [.closing] := .cons (.tag (by decide)) .nil
  exact hopen.append (((hpads _).append hdigits).append hclose)

theorem Piece.oneLine_or (h : Piece piece side?) :
    piece.OneLine ∨ side? = none ∧ (piece = ['\r'] ∨ piece = ['\n']) := by
  cases h with
  | @char c plain =>
    by_cases hreturn : c = '\r'
    · exact Or.inr ⟨rfl, Or.inl (by rw [hreturn])⟩
    by_cases hfeed : c = '\n'
    · exact Or.inr ⟨rfl, Or.inr (by rw [hfeed])⟩
    exact Or.inl (Text.oneLine_cons.2 ⟨⟨hreturn, hfeed⟩, .nil⟩)
  | entity mem => exact Or.inl (oneLine_of_entity _ mem)
  | tag mem => exact Or.inl (oneLine_of_tag _ _ mem)

/-- The lines of a text made of pieces are made of pieces, with the tags of the text in order. -/
theorem Marked.exists_rows (h : Marked text sides) : ∃ rows : List (Text × List MarkerSide),
    rows.map (·.1) = text.lines ∧ rows.flatMap (·.2) = sides ∧ ∀ row ∈ rows, Marked row.1 row.2 := by
  induction h with
  | nil => exact ⟨[([], [])], rfl, rfl, by simpa using Marked.nil⟩
  | @cons piece text side? sides hpiece htext ih =>
    obtain ⟨rows, hlines, hsides, hrows⟩ := ih
    have hbreak : ∀ row ∈ ([], []) :: rows, Marked row.1 row.2 := List.forall_mem_cons.2 ⟨.nil, hrows⟩
    rcases hpiece.oneLine_or with hone | ⟨rfl, rfl | rfl⟩
    · -- the piece goes to the first line
      obtain ⟨first, later, hfirst⟩ := Text.exists_lines_eq_cons text
      rw [hfirst, List.map_eq_cons_iff] at hlines
      obtain ⟨row, rows, rfl, rfl, rfl⟩ := hlines
      obtain ⟨hrow, hrows⟩ := List.forall_mem_cons.1 hrows
      refine ⟨(piece ++ row.1, side?.toList ++ row.2) :: rows, ?_, ?_, List.forall_mem_cons.2 ⟨.cons hpiece hrow, hrows⟩⟩
      · exact (Text.lines_append hone hfirst).symm
      · rw [← hsides, List.flatMap_cons, List.flatMap_cons, List.append_assoc]
    · by_cases hfeed : text.head? = some '\n'
      · -- the line feed that follows has made the row of this line end already
        obtain ⟨rest, rfl⟩ := List.head?_eq_some_iff.1 hfeed
        refine ⟨rows, ?_, hsides, hrows⟩
        rw [hlines, List.singleton_append, Text.lines_return_feed, Text.lines_feed]
      · exact ⟨([], []) :: rows, by rw [List.singleton_append, Text.lines_return hfeed, ← hlines]; rfl, hsides, hbreak⟩
    · exact ⟨([], []) :: rows, by rw [List.singleton_append, Text.lines_feed, ← hlines]; rfl, hsides, hbreak⟩

/-- Labelled lines are made of pieces if the lines are: each label adds its two tags. -/
theorem marked_labelLines (width : Nat) {rows : List (Text × List MarkerSide)} :
    ∀ number, (∀ row ∈ rows, Marked row.1 row.2) →
      Marked (joinLines (labelLines htmlStyle width number (rows.map (·.1))))
        (rows.flatMap fun row => .opening :: .closing :: row.2) := by
  induction rows with
  | nil => exact fun _ _ => .nil
  | cons row rows ih =>
    intro number h
    obtain ⟨hrow, hrows⟩ := List.forall_mem_cons.1 h
    have hfirst := (marked_linePrefix number width).append hrow
    have hrest := ih (number + 1) hrows
    cases rows with
    | nil => simpa [joinLines, labelLines] using hfirst
    | cons next rows =>
      have hfeed : Marked ['\n'] [] := (Piece.char (by decide)).marked
      exact hfirst.append (hfeed.append hrest)

/-! ## Balance -/

/-- With `depth` open tags in front, no tag is closed that is not open. -/
def Level : Nat → List MarkerSide → Prop
  | _, [] => True
  | depth, .opening :: rest => Level (depth + 1) rest
  | 0, .closing :: _ => False
  | depth + 1, .closing :: rest => Level depth rest

theorem level_iff {depth : Nat} {sides : List MarkerSide} :
    Level depth sides ↔ ∀ m, (sides.take m).count .closing ≤ depth + (sides.take m).count .opening := by
  have hopening : ∀ (rest : List MarkerSide) (m : Nat), ((MarkerSide.opening :: rest).take (m + 1)).count .closing =
      (rest.take m).count .closing ∧ ((MarkerSide.opening :: rest).take (m + 1)).count .opening =
        (rest.take m).count .opening + 1 := fun rest m => by simp
  have hclosing : ∀ (rest : List MarkerSide) (m : Nat), ((MarkerSide.closing :: rest).take (m + 1)).count .closing =
      (rest.take m).count .closing + 1 ∧ ((MarkerSide.closing :: rest).take (m + 1)).count .opening =
        (rest.take m).count .opening := fun rest m => by simp
  fun_induction Level depth sides with
  | case1 depth => simp
  | case2 depth rest ih =>
    refine ih.trans ⟨fun h m => ?_, fun h m => ?_⟩
    · cases m with
      | zero => simp
      | succ m => have := h m; have := hopening rest m; omega
    · have := h (m + 1); have := hopening rest m; omega
  | case3 rest =>
    refine ⟨False.elim, fun h => ?_⟩
    have := h 1; have := hclosing rest 0; simp at *
  | case4 depth rest ih =>
    refine ih.trans ⟨fun h m => ?_, fun h m => ?_⟩
    · cases m with
      | zero => simp
      | succ m => have := h m; have := hclosing rest m; omega
    · have := h (m + 1); have := hclosing rest m; omega

theorem level_append {later later' : List MarkerSide} (h : ∀ depth, Level depth later → Level depth later') :
    ∀ {depth : Nat} {sides : List MarkerSide}, Level depth (sides ++ later) → Level depth (sides ++ later') := by
  intro depth sides hlevel
  fun_induction Level depth sides with
  | case1 depth => exact h depth hlevel
  | case2 depth rest ih => exact ih hlevel
  | case3 rest => exact hlevel
  | case4 depth rest ih => exact ih hlevel

/-- Labels do not change the level. -/
theorem level_rows {rows : List (Text × List MarkerSide)} : ∀ {depth : Nat}, Level depth (rows.flatMap (·.2)) →
    Level depth (rows.flatMap fun row => .opening :: .closing :: row.2) := by
  induction rows with
  | nil => exact fun h => h
  | cons row rows ih => exact level_append fun _ => ih

theorem count_rows (rows : List (Text × List MarkerSide)) (side : MarkerSide) :
    (rows.flatMap fun row => .opening :: .closing :: row.2).count side =
      (rows.flatMap (·.2)).count side + rows.length := by
  induction rows with
  | nil => rfl
  | cons row rows ih =>
    have hlabel : ([.opening, .closing] : List MarkerSide).count side = 1 := by cases side <;> rfl
    calc ((row :: rows).flatMap fun row => .opening :: .closing :: row.2).count side
        = ([.opening, .closing] : List MarkerSide).count side + row.2.count side +
            (rows.flatMap fun row => .opening :: .closing :: row.2).count side := by
          rw [← List.count_append, ← List.count_append]
          rfl
      _ = ((row :: rows).flatMap (·.2)).count side + (row :: rows).length := by
          rw [hlabel, ih, List.flatMap_cons, List.count_append, List.length_cons]
          omega

/-- A page that no text can break: brackets are in tags only, every ampersand starts an entity, no tag is closed that
is not open, in the end all are closed, and `spans` tags are opened. -/
structure Unbroken (page : Text) (spans : Nat) : Prop where
  brackets : ∀ position, page[position]? = some '<' ∨ page[position]? = some '>' → InTag page position
  ampersands : ∀ position, page[position]? = some '&' → ∃ entity ∈ entities, entity <+: page.drop position
  balanced : ∀ n, ¬ EndsInTag page n →
    occurrences (tagsOf .closing) (page.take n) ≤ occurrences (tagsOf .opening) (page.take n)
  opened : occurrences (tagsOf .opening) page = spans
  closed : occurrences (tagsOf .closing) page = spans

theorem Marked.unbroken (h : Marked page sides) (hlevel : Level 0 sides) {spans : Nat}
    (hcount : ∀ side, sides.count side = spans) : Unbroken page spans := by
  have hall : ∀ side, occurrences (tagsOf side) page = spans := fun side => by
    rw [← hcount side, ← h.occurrences_eq List.not_mem_nil side, List.append_nil]
  refine ⟨fun _ hmem => ?_, fun _ => h.exists_entity, fun n hn => ?_, hall .opening, hall .closing⟩
  · exact hmem.elim (h.inTag (Or.inl rfl)) (h.inTag (Or.inr rfl))
  · obtain ⟨front, plain, m, htake, hfront, hplain⟩ := h.exists_take hn
    rw [htake, hfront.occurrences_eq hplain, hfront.occurrences_eq hplain]
    have := level_iff.1 hlevel m
    omega

end Html

/-- **Scripts cannot break a page.** Whatever the source and the units are, an HTML listing has brackets in its own
tags only and ampersands in its own entities only, at no point more tags are closed than were opened, and in the end
all are closed: one for each unit and one for each line. -/
theorem listing_unbroken (source : Text) (units : List CoverableUnit) :
    Html.Unbroken (listing source units htmlStyle)
      (units.length + ((listing source units htmlStyle).splitOn '\n').length) := by
  obtain ⟨rows, hlines, hsides, hrows⟩ := (Html.marked_placeMarkers source (markerEvents units) 0).exists_rows
  have hpage : Html.Marked (listing source units htmlStyle)
      (rows.flatMap fun row => .opening :: .closing :: row.2) := by
    have := Html.marked_labelLines (decimalDigits (applyMarkers source units htmlStyle).lines.length).length 1 hrows
    rwa [hlines] at this
  have hlength : ((listing source units htmlStyle).splitOn '\n').length = rows.length := by
    rw [listing, splitOn_numberLines htmlStyle_keepsLines, List.length_mapIdx]
    exact (congrArg List.length hlines).symm.trans (List.length_map _)
  refine hpage.unbroken (Html.level_rows ?_) fun side => ?_
  · rw [hsides, Html.level_iff]
    intro m
    rw [← List.map_take, Nat.zero_add]
    exact count_closing_le units m
  · rw [Html.count_rows, hsides, hlength, count_markerEvents]

/-- A script that tries to close the label and to write an entity. -/
example : String.ofList (listing "</span>&lt;".toList [] htmlStyle) =
    "<span class=\"tailwind-lineno\">1</span>&lt;/span&gt;&amp;lt;" := by
  decide +kernel

end ScriptCoverage
