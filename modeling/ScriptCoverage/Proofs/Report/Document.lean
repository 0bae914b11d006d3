import ScriptCoverage.Proofs.Number.Spelling
import ScriptCoverage.Report.Json
import ScriptCoverage.Text.Slice

/-!
# Reading JSON documents

What a document says can be found in its text. The reader here (`Spelled.ofText?`) knows the structure of JSON and
leaves numbers and strings as they are spelled. It takes any layout, and from the text of a document it gets back
the structure of this document with everything in it (`Spelled.ofText?_write`).
-/

namespace ScriptCoverage

/-- A JSON document with its numbers, words and strings as they are spelled. -/
inductive Spelled where
  | bare (token : Text)
  | quoted (chars : Text)
  | list (items : List Spelled)
  | record (members : List (Text × Spelled))

namespace Spelled

/-! ## The reader -/

def isBlank (c : Char) : Bool := c == ' ' || c == '\n' || c == '\r' || c == '\t'

def skipBlank (text : Text) : Text := text.dropWhile isBlank

/-- The characters up to the closing quote of a string, and the text behind it. -/
def readString : Text → Option (Text × Text)
  | [] => none
  | '"' :: rest => some ([], rest)
  | '\\' :: c :: rest => (readString rest).map fun (chars, rest) => ('\\' :: c :: chars, rest)
  | c :: rest => (readString rest).map fun (chars, rest) => (c :: chars, rest)

mutual

/-- Reads a value and gives the text behind it. The fuel bounds how deep and how far it reads. -/
def read : Nat → Text → Option (Spelled × Text)
  | 0, _ => none
  | fuel + 1, text => match skipBlank text with
    | '"' :: rest => (readString rest).map fun (chars, rest) => (.quoted chars, rest)
    | '[' :: rest => match skipBlank rest with
      | ']' :: rest => some (.list [], rest)
      | _ => (readItems fuel rest).map fun (items, rest) => (.list items, rest)
    | '\x7b' :: rest => match skipBlank rest with
      | '\x7d' :: rest => some (.record [], rest)
      | _ => (readMembers fuel rest).map fun (members, rest) => (.record members, rest)
    | text => match text.takeWhile isBare with
      | [] => none
      | token => some (.bare token, text.dropWhile isBare)

/-- Reads the items of a list and its closing bracket. -/
def readItems : Nat → Text → Option (List Spelled × Text)
  | 0, _ => none
  | fuel + 1, text => do
    let (item, rest) ← read fuel text
    match skipBlank rest with
    | ',' :: rest =>
      let (items, rest) ← readItems fuel rest
      return (item :: items, rest)
    | ']' :: rest => return ([item], rest)
    | _ => none

/-- Reads the members of a record and its closing brace. -/
def readMembers : Nat → Text → Option (List (Text × Spelled) × Text)
  | 0, _ => none
  | fuel + 1, text => match skipBlank text with
    | '"' :: rest => do
      let (name, rest) ← readString rest
      match skipBlank rest with
      | ':' :: rest =>
        let (value, rest) ← read fuel rest
        match skipBlank rest with
        | ',' :: rest =>
          let (members, rest) ← readMembers fuel rest
          return ((name, value) :: members, rest)
        | '\x7d' :: rest => return ([(name, value)], rest)
        | _ => none
      | _ => none
    | _ => none

end

/-- The document that a text holds, with nothing but blanks around it. -/
def ofText? (text : Text) : Option Spelled :=
  match read (text.length + 1) text with
  | some (document, rest) => if rest.all isBlank then some document else none
  | none => none

end Spelled

mutual

/-- A document as it is spelled. -/
def Json.spelled : Json → Spelled
  | .bool b => .bare (if b then "true" else "false").toList
  | .int i => .bare (toString i).toList
  | .number x => .bare x.text.toList
  | .text s => .quoted (s.toList.flatMap Json.escape)
  | .list items => .list (Json.spelledItems items)
  | .record members => .record (Json.spelledMembers members)

def Json.spelledItems : List Json → List Spelled
  | [] => []
  | item :: rest => item.spelled :: Json.spelledItems rest

def Json.spelledMembers : List (String × Json) → List (Text × Spelled)
  | [] => []
  | (name, value) :: rest => (name.toList.flatMap Json.escape, value.spelled) :: Json.spelledMembers rest

end

namespace Spelled

/-! ## Strings -/

theorem exists_digitChar {c : Char} {n : Nat} (h : c ∈ Nat.toDigits 16 n) : ∃ digit < 16, c = digit.digitChar := by
  rw [Nat.toDigits_eq_if (by decide)] at h
  split at h
  · exact ⟨n, ‹n < 16›, List.mem_singleton.1 h⟩
  · rcases List.mem_append.1 h with h | h
    · exact exists_digitChar h
    · exact ⟨n % 16, Nat.mod_lt n (by decide), List.mem_singleton.1 h⟩
termination_by n
decreasing_by omega

theorem hexDigits_ne (width n : Nat) : ∀ c ∈ Quoted.hexDigits width n, c ≠ '"' ∧ c ≠ '\\' := by
  intro c hc
  rcases List.mem_append.1 hc with hc | hc
  · rw [List.eq_of_mem_replicate hc]
    decide
  · obtain ⟨digit, hdigit, rfl⟩ := exists_digitChar hc
    have hdigits : ∀ digit < 16, digit.digitChar ≠ '"' ∧ digit.digitChar ≠ '\\' := by decide
    exact hdigits digit hdigit

/-- A character that is neither a quote nor a backslash is read as it is. -/
theorem readString_cons {c : Char} (h : c ≠ '"' ∧ c ≠ '\\') (text : Text) :
    readString (c :: text) = (readString text).map fun (chars, rest) => (c :: chars, rest) := by
  rw [readString]
  · exact h.1
  · exact fun d rest hc _ => h.2 hc

theorem readString_append {front : Text} (h : ∀ c ∈ front, c ≠ '"' ∧ c ≠ '\\') (text : Text) :
    readString (front ++ text) = (readString text).map fun (chars, rest) => (front ++ chars, rest) := by
  induction front with
  | nil => simp
  | cons c front ih =>
    obtain ⟨hc, hfront⟩ := List.forall_mem_cons.1 h
    rw [List.cons_append, readString_cons hc, ih hfront, Option.map_map]
    rfl

theorem readString_unitEscape (n : Nat) (text : Text) : readString (Json.unitEscape n ++ text) =
    (readString text).map fun (chars, rest) => (Json.unitEscape n ++ chars, rest) := by
  rw [Json.unitEscape, List.cons_append, List.cons_append, readString, readString_append (hexDigits_ne 4 n),
    Option.map_map]
  rfl

/-- A character of a string is written with a backslash and a letter, as it is, or by one or two code units. -/
theorem escape_cases (c : Char) :
    (∃ d, Json.escape c = ['\\', d]) ∨ (c ≠ '"' ∧ c ≠ '\\') ∧ Json.escape c = [c] ∨
      (∃ n, Json.escape c = Json.unitEscape n) ∨ ∃ m n, Json.escape c = Json.unitEscape m ++ Json.unitEscape n := by
  obtain ⟨written, hwritten⟩ : ∃ written, written = Json.escape c := ⟨_, rfl⟩
  rw [← hwritten]
  unfold Json.escape at hwritten
  split at hwritten
  · exact .inl ⟨c, hwritten⟩
  rename_i hquote
  split at hwritten
  · exact .inl ⟨'n', hwritten⟩
  split at hwritten
  · exact .inl ⟨'r', hwritten⟩
  split at hwritten
  · exact .inl ⟨'t', hwritten⟩
  split at hwritten
  · exact .inl ⟨'b', hwritten⟩
  split at hwritten
  · exact .inl ⟨'f', hwritten⟩
  split at hwritten
  · exact .inr (.inl ⟨not_or.1 hquote, hwritten⟩)
  split at hwritten
  · exact .inr (.inr (.inl ⟨_, hwritten⟩))
  · exact .inr (.inr (.inr ⟨_, _, hwritten⟩))

theorem readString_escape (c : Char) (text : Text) :
    readString (Json.escape c ++ text) = (readString text).map fun (chars, rest) => (Json.escape c ++ chars, rest) := by
  rcases escape_cases c with ⟨d, h⟩ | ⟨hplain, h⟩ | ⟨n, h⟩ | ⟨m, n, h⟩
  · rw [h]; rfl
  · rw [h]; exact readString_cons hplain text
  · rw [h, readString_unitEscape]
  · rw [h, List.append_assoc, readString_unitEscape, readString_unitEscape, Option.map_map]
    simp only [Function.comp_def, List.append_assoc]

theorem readString_quoted (s text : Text) :
    readString (s.flatMap Json.escape ++ '"' :: text) = some (s.flatMap Json.escape, text) := by
  induction s with
  | nil => rfl
  | cons c rest ih => rw [List.flatMap_cons, List.append_assoc, readString_escape, ih]; rfl

/-! ## Blanks and tokens -/

/-- What may follow a number or a word. -/
def Ends (rest : Text) : Prop := ∀ c, rest.head? = some c → isBare c = false

theorem skipBlank_newline (level : Nat) (text : Text) : skipBlank (Json.newline level ++ text) = skipBlank text := by
  have hblank : ∀ c ∈ Json.newline level, isBlank c = true := by
    refine List.forall_mem_cons.2 ⟨by decide, fun c hc => ?_⟩
    rw [List.eq_of_mem_replicate hc]
    decide
  exact List.dropWhile_append_of_pos hblank

theorem skipBlank_cons {c : Char} (h : isBlank c = false) (text : Text) : skipBlank (c :: text) = c :: text :=
  List.dropWhile_cons_of_neg (by simpa using h)

theorem ends_newline (level : Nat) (text : Text) : Ends (Json.newline level ++ text) := by
  intro c hc
  cases hc
  decide

/-- A number or a word begins neither with a blank nor with a bracket. -/
theorem cons_of_bare {token : Text} (h : Bare token) (hne : token ≠ []) :
    ∃ c rest, token = c :: rest ∧ isBlank c = false ∧ c ≠ ']' := by
  obtain ⟨c, rest, rfl⟩ := List.exists_cons_of_ne_nil hne
  have hc : isBare c = true := h c List.mem_cons_self
  refine ⟨c, rest, rfl, ?_, ?_⟩
  · rw [Bool.eq_false_iff]
    intro hblank
    simp only [isBlank, Bool.or_eq_true, beq_iff_eq] at hblank
    rcases hblank with ((rfl | rfl) | rfl) | rfl <;> exact absurd hc (by decide)
  · rintro rfl
    exact absurd hc (by decide)

/-! ## The reader, one character at a time -/

section
variable {fuel : Nat} {text rest after last token name chars : Text} {item value : Spelled} {items : List Spelled}
  {members : List (Text × Spelled)}

theorem read_bare (hbare : Bare token) (hne : token ≠ []) (hrest : Ends rest) :
    read (fuel + 1) (token ++ rest) = some (.bare token, rest) := by
  have htake : (token ++ rest).takeWhile isBare = token := by
    rw [List.takeWhile_append_of_pos hbare]
    cases rest with
    | nil => simp
    | cons c rest => rw [List.takeWhile_cons_of_neg (by simp [hrest c rfl]), List.append_nil]
  have hdrop : (token ++ rest).dropWhile isBare = rest := by
    rw [List.dropWhile_append_of_pos hbare]
    cases rest with
    | nil => rfl
    | cons c rest => rw [List.dropWhile_cons_of_neg (by simp [hrest c rfl])]
  obtain ⟨c, later, rfl, hblank, -⟩ := cons_of_bare hbare hne
  have hc : isBare c = true := hbare c List.mem_cons_self
  rw [read, List.cons_append, skipBlank_cons hblank]
  split
  · rename_i h; cases h; cases hc
  · rename_i h; cases h; cases hc
  · rename_i h; cases h; cases hc
  · rw [← List.cons_append, htake, hdrop]

theorem read_quoted (h : skipBlank text = '"' :: rest) (hstring : readString rest = some (chars, after)) :
    read (fuel + 1) text = some (.quoted chars, after) := by
  rw [read, h]
  simp only [hstring, Option.map_some]

theorem read_list_nil (h : skipBlank text = '[' :: rest) (hrest : skipBlank rest = ']' :: after) :
    read (fuel + 1) text = some (.list [], after) := by
  rw [read, h]
  simp only [hrest]

theorem read_list (h : skipBlank text = '[' :: rest) (hrest : (skipBlank rest).head? ≠ some ']')
    (hitems : readItems fuel rest = some (items, after)) : read (fuel + 1) text = some (.list items, after) := by
  rw [read, h]
  simp only
  split
  · rename_i hclosed
    rw [hclosed] at hrest
    exact absurd rfl hrest
  · rw [hitems]
    rfl

theorem read_record_nil (h : skipBlank text = '\x7b' :: rest) (hrest : skipBlank rest = '\x7d' :: after) :
    read (fuel + 1) text = some (.record [], after) := by
  rw [read, h]
  simp only [hrest]

theorem read_record (h : skipBlank text = '\x7b' :: rest) (hrest : (skipBlank rest).head? ≠ some '\x7d')
    (hmembers : readMembers fuel rest = some (members, after)) :
    read (fuel + 1) text = some (.record members, after) := by
  rw [read, h]
  simp only
  split
  · rename_i hclosed
    rw [hclosed] at hrest
    exact absurd rfl hrest
  · rw [hmembers]
    rfl

theorem readItems_last (hitem : read fuel text = some (item, rest)) (h : skipBlank rest = ']' :: after) :
    readItems (fuel + 1) text = some ([item], after) := by
  simp [readItems, hitem, h]

theorem readItems_next (hitem : read fuel text = some (item, rest)) (h : skipBlank rest = ',' :: after)
    (hitems : readItems fuel after = some (items, last)) : readItems (fuel + 1) text = some (item :: items, last) := by
  simp [readItems, hitem, h, hitems]

theorem readMembers_last (hquote : skipBlank text = '"' :: rest) (hname : readString rest = some (name, ':' :: after))
    (hvalue : read fuel after = some (value, last)) {end' : Text} (h : skipBlank last = '\x7d' :: end') :
    readMembers (fuel + 1) text = some ([(name, value)], end') := by
  have hcolon : skipBlank (':' :: after) = ':' :: after := skipBlank_cons (by decide) after
  simp [readMembers, hquote, hname, hcolon, hvalue, h]

theorem readMembers_next (hquote : skipBlank text = '"' :: rest) (hname : readString rest = some (name, ':' :: after))
    (hvalue : read fuel after = some (value, last)) {next end' : Text} (h : skipBlank last = ',' :: next)
    (hmembers : readMembers fuel next = some (members, end')) :
    readMembers (fuel + 1) text = some ((name, value) :: members, end') := by
  have hcolon : skipBlank (':' :: after) = ':' :: after := skipBlank_cons (by decide) after
  simp [readMembers, hquote, hname, hcolon, hvalue, h, hmembers]

end

/-! ## What is written is read -/

/-- Blanks in front of a value make no difference. -/
theorem read_congr {text text' : Text} (h : skipBlank text = skipBlank text') (fuel : Nat) :
    read fuel text = read fuel text' := by
  cases fuel with
  | zero => rfl
  | succ fuel => rw [read, read, h]

theorem read_newline (fuel level : Nat) (text : Text) : read fuel (Json.newline level ++ text) = read fuel text :=
  read_congr (skipBlank_newline level text) fuel

/-- The text of a document begins with the document. -/
theorem write_cons (d : Json) (level : Nat) :
    ∃ c rest, d.write level = c :: rest ∧ isBlank c = false ∧ c ≠ ']' := by
  cases d with
  | bool b => cases b <;> exact ⟨_, _, rfl, by decide, by decide⟩
  | int i => exact cons_of_bare (bare_toString i).1 (bare_toString i).2
  | number x => exact cons_of_bare x.bare_text.1 x.bare_text.2
  | text s => exact ⟨_, _, rfl, by decide, by decide⟩
  | list items => cases items <;> exact ⟨_, _, rfl, by decide, by decide⟩
  | record members => cases members <;> exact ⟨_, _, rfl, by decide, by decide⟩

theorem length_newline (level : Nat) : (Json.newline level).length = 2 * level + 1 := by simp [Json.newline]

theorem quoted_append (s : String) (rest : Text) :
    Json.quoted s ++ rest = '"' :: (s.toList.flatMap Json.escape ++ '"' :: rest) := by
  simp [Json.quoted]

section
variable (level : Nat) (item : Json) (items : List Json) (name : String) (member : String × Json)
  (members : List (String × Json)) (rest : Text)

theorem write_list : Json.write level (.list (item :: items)) ++ rest =
    '[' :: (Json.writeItems (level + 1) (item :: items) ++ (Json.newline level ++ ']' :: rest)) := by
  rw [Json.write] <;> simp

theorem write_record : Json.write level (.record (member :: members)) ++ rest =
    '\x7b' :: (Json.writeMembers (level + 1) (member :: members) ++ (Json.newline level ++ '\x7d' :: rest)) := by
  rw [Json.write] <;> simp

theorem writeItems_last : Json.writeItems level [item] ++ rest = Json.newline level ++ (item.write level ++ rest) := by
  rw [Json.writeItems, List.append_assoc]

theorem writeItems_next (next : Json) : Json.writeItems level (item :: next :: items) ++ rest =
    Json.newline level ++ (item.write level ++ ',' :: (Json.writeItems level (next :: items) ++ rest)) := by
  rw [Json.writeItems] <;> simp

theorem writeMembers_last : Json.writeMembers level [(name, item)] ++ rest = Json.newline level ++
    '"' :: (name.toList.flatMap Json.escape ++ '"' :: ':' :: ' ' :: (item.write level ++ rest)) := by
  simp [Json.writeMembers, quoted_append]

theorem writeMembers_next (next : String × Json) : Json.writeMembers level ((name, item) :: next :: members) ++ rest =
    Json.newline level ++ '"' :: (name.toList.flatMap Json.escape ++ '"' :: ':' :: ' ' ::
      (item.write level ++ ',' :: (Json.writeMembers level (next :: members) ++ rest))) := by
  rw [Json.writeMembers] <;> simp [quoted_append]

/-- A list with items does not look like one without. -/
theorem skipBlank_items : (skipBlank (Json.writeItems level (item :: items) ++ rest)).head? ≠ some ']' := by
  obtain ⟨c, later, hwrite, hblank, hne⟩ := write_cons item level
  cases items with
  | nil =>
    rw [writeItems_last, skipBlank_newline, hwrite, List.cons_append, skipBlank_cons hblank]
    simpa using hne
  | cons next items =>
    rw [writeItems_next, skipBlank_newline, hwrite, List.cons_append, skipBlank_cons hblank]
    simpa using hne

theorem skipBlank_members : (skipBlank (Json.writeMembers level (member :: members) ++ rest)).head? ≠ some '\x7d' := by
  obtain ⟨name, value⟩ := member
  cases members with
  | nil =>
    rw [writeMembers_last, skipBlank_newline, skipBlank_cons (by decide)]
    simp
  | cons next members =>
    rw [writeMembers_next, skipBlank_newline, skipBlank_cons (by decide)]
    simp

end

theorem read_blank (fuel : Nat) (text : Text) : read fuel (' ' :: text) = read fuel text :=
  read_congr (List.dropWhile_cons_of_pos (by decide)) fuel

/-- A comma may follow a number or a word. -/
theorem ends_comma (rest : Text) : Ends (',' :: rest) := by
  intro c hc
  cases hc
  decide

theorem skipBlank_quote (level : Nat) (rest : Text) :
    skipBlank (Json.newline level ++ '"' :: rest) = '"' :: rest := by
  rw [skipBlank_newline, skipBlank_cons (by decide)]

mutual

theorem read_write : ∀ (d : Json) (level : Nat) {fuel : Nat} {rest : Text}, (d.write level).length < fuel → Ends rest →
    read fuel (d.write level ++ rest) = some (d.spelled, rest)
  | .bool b, level, fuel + 1, rest, hfuel, hrest => by
    have hword (word : Text) (hbare : Bare word) (hne : word ≠ []) :
        read (fuel + 1) (word ++ rest) = some (.bare word, rest) := read_bare hbare hne hrest
    cases b
    · exact hword "false".toList (by decide) (by decide)
    · exact hword "true".toList (by decide) (by decide)
  | .int i, level, fuel + 1, rest, hfuel, hrest => read_bare (bare_toString i).1 (bare_toString i).2 hrest
  | .number x, level, fuel + 1, rest, hfuel, hrest => read_bare x.bare_text.1 x.bare_text.2 hrest
  | .text s, level, fuel + 1, rest, hfuel, hrest => by
    rw [Json.write, quoted_append]
    exact read_quoted (skipBlank_cons (by decide) _) (readString_quoted s.toList rest)
  | .list [], level, fuel + 1, rest, hfuel, hrest =>
    read_list_nil (skipBlank_cons (by decide) _) (skipBlank_cons (by decide) _)
  | .list (item :: items), level, fuel + 1, rest, hfuel, hrest => by
    have hlength := congrArg List.length (write_list level item items [])
    simp only [List.length_append, List.length_cons, List.length_nil, length_newline] at hlength
    rw [write_list]
    refine read_list (skipBlank_cons (by decide) _) (skipBlank_items _ _ _ _) ?_
    refine readItems_write (item :: items) (by simp) (level + 1) (by omega) ?_ (ends_newline _ _)
    rw [skipBlank_newline, skipBlank_cons (by decide)]
  | .record [], level, fuel + 1, rest, hfuel, hrest =>
    read_record_nil (skipBlank_cons (by decide) _) (skipBlank_cons (by decide) _)
  | .record (member :: members), level, fuel + 1, rest, hfuel, hrest => by
    have hlength := congrArg List.length (write_record level member members [])
    simp only [List.length_append, List.length_cons, List.length_nil, length_newline] at hlength
    rw [write_record]
    refine read_record (skipBlank_cons (by decide) _) (skipBlank_members _ _ _ _) ?_
    refine readMembers_write (member :: members) (by simp) (level + 1) (by omega) ?_ (ends_newline _ _)
    rw [skipBlank_newline, skipBlank_cons (by decide)]

theorem readItems_write : ∀ (items : List Json), items ≠ [] → ∀ (level : Nat) {fuel : Nat} {rest after : Text},
    (Json.writeItems level items).length < fuel → skipBlank rest = ']' :: after → Ends rest →
    readItems fuel (Json.writeItems level items ++ rest) = some (Json.spelledItems items, after)
  | [], hne, _, _, _, _, _, _, _ => absurd rfl hne
  | [item], _, level, fuel + 1, rest, after, hfuel, hclose, hrest => by
    have hlength := congrArg List.length (writeItems_last level item [])
    simp only [List.length_append, List.length_nil, length_newline] at hlength
    rw [writeItems_last]
    exact readItems_last ((read_newline ..).trans (read_write item level (by omega) hrest)) hclose
  | item :: next :: items, _, level, fuel + 1, rest, after, hfuel, hclose, hrest => by
    have hlength := congrArg List.length (writeItems_next level item items [] next)
    simp only [List.length_append, List.length_cons, List.length_nil, length_newline] at hlength
    rw [writeItems_next]
    exact readItems_next ((read_newline ..).trans (read_write item level (by omega) (ends_comma _)))
      (skipBlank_cons (by decide) _) (readItems_write (next :: items) (by simp) level (by omega) hclose hrest)

theorem readMembers_write : ∀ (members : List (String × Json)), members ≠ [] → ∀ (level : Nat) {fuel : Nat}
    {rest after : Text}, (Json.writeMembers level members).length < fuel → skipBlank rest = '\x7d' :: after →
    Ends rest → readMembers fuel (Json.writeMembers level members ++ rest) = some (Json.spelledMembers members, after)
  | [], hne, _, _, _, _, _, _, _ => absurd rfl hne
  | [(name, value)], _, level, fuel + 1, rest, after, hfuel, hclose, hrest => by
    have hlength := congrArg List.length (writeMembers_last level value name [])
    simp only [List.length_append, List.length_cons, List.length_nil, length_newline] at hlength
    rw [writeMembers_last]
    exact readMembers_last (skipBlank_quote ..) (readString_quoted name.toList _)
      ((read_blank ..).trans (read_write value level (by omega) hrest)) hclose
  | (name, value) :: next :: members, _, level, fuel + 1, rest, after, hfuel, hclose, hrest => by
    have hlength := congrArg List.length (writeMembers_next level value name members [] next)
    simp only [List.length_append, List.length_cons, List.length_nil, length_newline] at hlength
    rw [writeMembers_next]
    exact readMembers_next (skipBlank_quote ..) (readString_quoted name.toList _)
      ((read_blank ..).trans (read_write value level (by omega) (ends_comma _))) (skipBlank_cons (by decide) _)
      (readMembers_write (next :: members) (by simp) level (by omega) hclose hrest)

end

/-- **Documents can be read.** From the text of a document with a line feed behind it the reader gets the document. -/
theorem ofText?_write (d : Json) : ofText? (d.write 0 ++ ['\n']) = some d.spelled := by
  have hread : read ((d.write 0 ++ ['\n']).length + 1) (d.write 0 ++ ['\n']) = some (d.spelled, ['\n']) := by
    refine read_write d 0 ?_ (ends_newline 0 [])
    rw [List.length_append]
    omega
  rw [ofText?, hread]
  rfl

end Spelled

end ScriptCoverage
