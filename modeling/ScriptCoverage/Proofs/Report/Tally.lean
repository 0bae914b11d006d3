import ScriptCoverage.Proofs.Report.Document
import ScriptCoverage.Proofs.Report.Listing
import ScriptCoverage.Proofs.Report.Placement
import ScriptCoverage.Report.Basic

/-!
# What reports say about the number of units

A plain text report says in its last line how many units there are and how many of them ran, a brief summary in a line
for each and again in a line for each kind, and a JSON document in the record of its summary and again by the records of
the units. The readers here know nothing of a run and find the numbers in the texts. The listing in front of the last
line is the script's, so anything can stand there, but no number holds a line end, a slash or a blank (`not_mem_ratio`):
the readers get the numbers of the run (`ofText_text`, `ofSummary_summary`, `byKind_summary`).
-/

namespace ScriptCoverage

/-! ## Readers -/

namespace Tally

/-- The number that decimal digits make. -/
def readNat (digits : Text) : Option Nat :=
  if digits ≠ [] ∧ digits.all Char.isDigit then some (Nat.ofDigitChars 10 digits 0) else none

/-- The integer that decimal digits make, with or without a sign. -/
def readInt : Text → Option Int
  | '-' :: digits => (readNat digits).map fun n : Nat => -(n : Int)
  | digits => (readNat digits).map fun n : Nat => (n : Int)

/-- Two numbers with a slash between: how many units ran, and how many there are. -/
def readRatio (text : Text) : Option Summary := do
  match text.splitOn '/' with
  | [executed, total] => return { executed := ← readInt executed, total := ← readInt total }
  | _ => none

/-- The last line of a text that ends in a line feed. -/
def lastLine (text : Text) : Text := ((text.reverse.drop 1).takeWhile (· ≠ '\n')).reverse

/-- What the last line of a plain text report says. -/
def ofText (report : Text) : Option Summary := do
  let rest ← "Units executed: ".toList.isPrefixOf? (lastLine report)
  readRatio (rest.takeWhile (· ≠ ' '))

/-- What a brief summary says in its first two lines. -/
def ofSummary (report : Text) : Option Summary :=
  match report.splitOn '\n' with
  | first :: second :: _ => do
    let total ← "Total units: ".toList.isPrefixOf? first
    let executed ← "Executed units: ".toList.isPrefixOf? second
    return { total := ← readInt total, executed := ← readInt executed }
  | _ => none

/-- The name of a kind and its numbers, if a line is indented and has both. -/
def readKind (line : Text) : Option (String × Summary) := do
  let rest ← "  ".toList.isPrefixOf? line
  match rest.splitOn ':' with
  | [name, numbers] => return (String.ofList name, ← readRatio (numbers.drop 1))
  | _ => none

/-- What a brief summary says of single kinds. -/
def byKind (report : Text) : List (String × Summary) := (report.splitOn '\n').filterMap readKind

end Tally

namespace Spelled

/-- The member of a record under a name. -/
def member? (name : String) : Spelled → Option Spelled
  | .record members => members.lookup name.toList
  | _ => none

def items? : Spelled → Option (List Spelled)
  | .list items => some items
  | _ => none

/-- The integer under a name. -/
def int? (name : String) (d : Spelled) : Option Int :=
  match d.member? name with
  | some (.bare digits) => Tally.readInt digits
  | _ => none

/-- The numbers in the summary of a JSON report. -/
def tally? (d : Spelled) : Option Summary := do
  let summary ← d.member? "summary"
  return { total := ← summary.int? "total_units", executed := ← summary.int? "executed_units" }

/-- Whether the record of a unit says that it ran. -/
def ran (record : Spelled) : Bool := (record.int? "execution_count").any fun count => decide (0 < count)

end Spelled

/-! ## The numbers in the texts -/

namespace Tally

theorem isDigit_of_mem {c : Char} {n : Nat} (h : c ∈ decimalDigits n) : c.isDigit = true :=
  Nat.isDigit_of_mem_toDigits (by decide) (by decide) h

theorem readNat_decimalDigits (n : Nat) : readNat (decimalDigits n) = some n := by
  have hdigits : (decimalDigits n).all Char.isDigit = true := List.all_eq_true.2 fun c hc => isDigit_of_mem hc
  rw [readNat, if_pos ⟨decimalDigits_ne_nil n, hdigits⟩, decimalDigits,
    Nat.ofDigitChars_toDigits (by decide) (by decide)]

theorem readInt_decimalDigits (n : Nat) : readInt (decimalDigits n) = some (n : Int) := by
  unfold readInt
  split
  · rename_i digits hdigits
    have hsign : '-' ∈ decimalDigits n := by
      rw [hdigits]
      exact List.mem_cons_self
    exact absurd (isDigit_of_mem hsign) (by decide)
  · rw [readNat_decimalDigits]
    rfl

theorem readInt_toString (i : Int) : readInt (toString i).toList = some i := by
  have hdigits (n : Nat) : n.repr.toList = decimalDigits n := Nat.toList_repr
  rw [Int.toString_eq_repr, Int.repr_eq_if]
  split
  · rw [hdigits, readInt_decimalDigits, Int.toNat_of_nonneg ‹0 ≤ i›]
  · rw [String.toList_append, hdigits]
    show (readNat (decimalDigits (-i).toNat)).map (fun n : Nat => -(n : Int)) = some i
    rw [readNat_decimalDigits, Option.map_some, Int.toNat_of_nonneg (by omega), Int.neg_neg]

theorem not_mem_of_bare {text : Text} {c : Char} (h : Bare text) (hc : isBare c = false) : c ∉ text := by
  intro hmem
  rw [h c hmem] at hc
  cases hc

theorem splitOn_two {c : Char} {first second : Text} (hfirst : c ∉ first) (hsecond : c ∉ second) :
    (first ++ c :: second).splitOn c = [first, second] := by
  have hsplit : ([c].intercalate [first, second]).splitOn c = [first, second] :=
    List.splitOn_intercalate c (by simp [hfirst, hsecond]) (by simp)
  simpa using hsplit

theorem readRatio_append (s : Summary) :
    readRatio ((toString s.executed).toList ++ '/' :: (toString s.total).toList) = some s := by
  have hexecuted := not_mem_of_bare (bare_toString s.executed).1 (show isBare '/' = false by decide)
  have htotal := not_mem_of_bare (bare_toString s.total).1 (show isBare '/' = false by decide)
  rw [readRatio, splitOn_two hexecuted htotal]
  simp only [readInt_toString]
  rfl

theorem lastLine_append {line : Text} (h : '\n' ∉ line) (front : Text) :
    lastLine (front ++ '\n' :: (line ++ ['\n'])) = line := by
  have hline : ∀ c ∈ line.reverse, (c ≠ '\n' : Bool) = true := by
    intro c hc
    simp only [ne_eq, decide_not, Bool.not_eq_true', decide_eq_false_iff_not]
    rintro rfl
    exact h (List.mem_reverse.1 hc)
  have hreverse : (front ++ '\n' :: (line ++ ['\n'])).reverse.drop 1 = line.reverse ++ '\n' :: front.reverse := by simp
  rw [lastLine, hreverse, List.takeWhile_append_of_pos hline]
  simp

theorem isPrefixOf?_append (front rest : Text) : front.isPrefixOf? (front ++ rest) = some rest :=
  List.isPrefixOf?_eq_some_iff_append_eq.2 rfl

/-! ### The last line of a plain text report -/

theorem toList_unitsLine (executed total : Int) (percent : String) :
    (s!"Units executed: {executed}/{total} ({percent}%)\n").toList = "Units executed: ".toList ++
      (((toString executed).toList ++ '/' :: (toString total).toList) ++
        ' ' :: '(' :: (percent.toList ++ ['%', ')'])) ++ ['\n'] := by
  simp only [String.toList_append, List.append_assoc, List.cons_append]
  rfl

/-- A ratio holds digits, signs and the slash only. -/
theorem not_mem_ratio (s : Summary) {c : Char} (hc : isBare c = false) (hslash : c ≠ '/') :
    c ∉ (toString s.executed).toList ++ '/' :: (toString s.total).toList := by
  have hexecuted := not_mem_of_bare (bare_toString s.executed).1 hc
  have htotal := not_mem_of_bare (bare_toString s.total).1 hc
  simp only [List.mem_append, List.mem_cons, not_or]
  exact ⟨hexecuted, hslash, htotal⟩

theorem ofText_text (source : Text) (units : List CoverableUnit) :
    ofText (Report.text source units) = some (Summary.ofUnits units) := by
  obtain ⟨s, hs⟩ : ∃ s, s = Summary.ofUnits units := ⟨_, rfl⟩
  obtain ⟨ratio, hratio⟩ : ∃ ratio, ratio = (toString s.executed).toList ++ '/' :: (toString s.total).toList := ⟨_, rfl⟩
  have hfeed : '\n' ∉ "Units executed: ".toList ++ (ratio ++ ' ' :: '(' :: (s.percentText.toList ++ ['%', ')'])) := by
    have hpercent : '\n' ∉ s.percentText.toList := not_mem_of_bare (Binary64.bare_fixed _ _) (by decide)
    have hnumbers : '\n' ∉ ratio := hratio ▸ not_mem_ratio s (by decide) (by decide)
    simp only [List.mem_append, List.mem_cons, not_or]
    exact ⟨by decide, hnumbers, by decide, by decide, hpercent, by decide⟩
  have htext : Report.text source units = (listing source units textStyle ++ ['\n']) ++ '\n' ::
      ("Units executed: ".toList ++ (ratio ++ ' ' :: '(' :: (s.percentText.toList ++ ['%', ')'])) ++ ['\n']) := by
    rw [Report.text, ← hs, toList_unitsLine, hratio]
    simp only [List.append_assoc]
    rfl
  have htake : (ratio ++ ' ' :: '(' :: (s.percentText.toList ++ ['%', ')'])).takeWhile (· ≠ ' ') = ratio := by
    have hnumbers : ∀ c ∈ ratio, (c ≠ ' ' : Bool) = true := by
      intro c hc
      simp only [ne_eq, decide_not, Bool.not_eq_true', decide_eq_false_iff_not]
      rintro rfl
      exact not_mem_ratio s (by decide) (by decide) (hratio ▸ hc)
    rw [List.takeWhile_append_of_pos hnumbers]
    simp
  -- whatever the listing holds, the last line is behind it
  rw [htext, ofText, lastLine_append hfeed, isPrefixOf?_append]
  show readRatio _ = _
  rw [htake, hratio, readRatio_append, hs]

/-! ### The lines of a brief summary -/

theorem toList_totalLine (total : Int) :
    (s!"Total units: {total}").toList = "Total units: ".toList ++ (toString total).toList := by
  simp only [String.toList_append]
  rfl

theorem toList_executedLine (executed : Int) :
    (s!"Executed units: {executed}").toList = "Executed units: ".toList ++ (toString executed).toList := by
  simp only [String.toList_append]
  rfl

theorem toList_coverageLine (percent : String) :
    (s!"Coverage: {percent}%").toList = "Coverage: ".toList ++ (percent.toList ++ ['%']) := by
  simp only [String.toList_append, List.append_assoc]
  rfl

theorem toList_kindLine (name : String) (executed total : Nat) : (s!"  {name}: {executed}/{total}").toList =
    "  ".toList ++ (name.toList ++ ':' :: ' ' :: (executed.repr.toList ++ '/' :: total.repr.toList)) := by
  simp only [String.toList_append, List.append_assoc]
  rfl

/-- The units of a kind. -/
def ofKind (units : List CoverableUnit) (kind : UnitKind) : List CoverableUnit := units.filter (·.kind == kind)

/-- The kinds that occur. -/
def occurring (units : List CoverableUnit) : List UnitKind :=
  UnitKind.all.filter fun kind => !(ofKind units kind).isEmpty

/-- The line for a kind. -/
def kindLine (units : List CoverableUnit) (kind : UnitKind) : Text :=
  let s := Summary.ofUnits (ofKind units kind)
  "  ".toList ++ (kind.name.toList ++ ':' :: ' ' :: ((toString s.executed).toList ++ '/' :: (toString s.total).toList))

theorem kindLine?_eq (units : List CoverableUnit) (kind : UnitKind) : (Report.kindLine? units kind).map String.toList =
    if (ofKind units kind).isEmpty then none else some (kindLine units kind) := by
  rw [Report.kindLine?, ← ofKind]
  split
  · rfl
  · rw [Option.map_some, toList_kindLine]
    rfl

theorem kindLines_eq (units : List CoverableUnit) :
    (UnitKind.all.filterMap (Report.kindLine? units)).map String.toList =
      (occurring units).map (kindLine units) := by
  rw [List.map_filterMap, occurring]
  simp only [kindLine?_eq]
  generalize UnitKind.all = kinds
  induction kinds with
  | nil => rfl
  | cons kind rest ih =>
    rw [List.filterMap_cons, List.filter_cons]
    cases (ofKind units kind).isEmpty with
    | true => exact ih
    | false => exact congrArg (kindLine units kind :: ·) ih

/-- The lines of a brief summary, the empty line behind the last line feed included. -/
def summaryLines (units : List CoverableUnit) : List Text :=
  let s := Summary.ofUnits units
  ("Total units: ".toList ++ (toString s.total).toList) ::
    ("Executed units: ".toList ++ (toString s.executed).toList) ::
      ("Coverage: ".toList ++ (s.percentText.toList ++ ['%'])) ::
        ((if units.isEmpty then [] else [] :: "By kind:".toList :: (occurring units).map (kindLine units)) ++ [[]])

theorem joinLines_cons {line : Text} {rest : List Text} (h : rest ≠ []) :
    joinLines (line :: rest) = line ++ '\n' :: joinLines rest := by
  cases rest with
  | nil => exact absurd rfl h
  | cons next rest => rfl

/-- A line feed behind the last line is one more line, which is empty. -/
theorem joinLines_append_feed {lines : List Text} (h : lines ≠ []) :
    joinLines lines ++ ['\n'] = joinLines (lines ++ [[]]) := by
  fun_induction joinLines lines with
  | case1 => exact absurd rfl h
  | case2 line => rfl
  | case3 line rest hne ih =>
    rw [List.append_assoc, List.cons_append, ih (by simpa using hne), List.cons_append, joinLines_cons (by simp)]

/-- A line that begins with a line feed is two lines. -/
theorem joinLines_break (line : Text) (rest : List Text) :
    joinLines (('\n' :: line) :: rest) = joinLines ([] :: line :: rest) := by
  cases rest <;> rfl

theorem summary_eq (units : List CoverableUnit) : Report.summary units = joinLines (summaryLines units) := by
  rw [Report.summary, Report.summaryLines, summaryLines, ← kindLines_eq]
  simp only [List.map_cons, toList_totalLine, toList_executedLine, toList_coverageLine,
    List.cons_append, List.nil_append]
  cases hempty : units.isEmpty with
  | true =>
    simp only [if_true, List.map_nil]
    rw [joinLines_append_feed (List.cons_ne_nil _ _)]
    rfl
  | false =>
    have hbreak : "\nBy kind:".toList = '\n' :: "By kind:".toList := by decide
    simp only [Bool.false_eq_true, if_false, List.map_cons]
    rw [joinLines_append_feed (List.cons_ne_nil _ _), hbreak]
    simp only [List.cons_append]
    rw [joinLines_cons (by simp), joinLines_cons (by simp), joinLines_cons (by simp), joinLines_break]
    rfl

theorem not_mem_name (kind : UnitKind) : '\n' ∉ kind.name.toList ∧ ':' ∉ kind.name.toList := by
  cases kind <;> decide

theorem feed_not_mem_kindLine (units : List CoverableUnit) (kind : UnitKind) : '\n' ∉ kindLine units kind := by
  have hratio := not_mem_ratio (Summary.ofUnits (ofKind units kind)) (show isBare '\n' = false by decide) (by decide)
  rw [kindLine, List.mem_append, List.mem_append, List.mem_cons, List.mem_cons]
  simp only [not_or]
  exact ⟨by decide, (not_mem_name kind).1, by decide, by decide, hratio⟩

theorem feed_not_mem_summaryLines (units : List CoverableUnit) : ∀ line ∈ summaryLines units, '\n' ∉ line := by
  have hnumber (i : Int) : '\n' ∉ (toString i).toList := not_mem_of_bare (bare_toString i).1 (by decide)
  have hpercent (s : Summary) : '\n' ∉ s.percentText.toList := not_mem_of_bare (Binary64.bare_fixed _ _) (by decide)
  have happend {front back : Text} (hfront : '\n' ∉ front) (hback : '\n' ∉ back) : '\n' ∉ front ++ back :=
    fun h => (List.mem_append.1 h).elim hfront hback
  rw [summaryLines]
  refine List.forall_mem_cons.2 ⟨happend (by decide) (hnumber _), List.forall_mem_cons.2
    ⟨happend (by decide) (hnumber _), List.forall_mem_cons.2
      ⟨happend (by decide) (happend (hpercent _) (by decide)), fun line hline => ?_⟩⟩⟩
  rcases List.mem_append.1 hline with hline | hline
  · split at hline
    · cases hline
    rcases List.mem_cons.1 hline with rfl | hline
    · exact List.not_mem_nil
    rcases List.mem_cons.1 hline with rfl | hline
    · decide
    obtain ⟨kind, -, rfl⟩ := List.mem_map.1 hline
    exact feed_not_mem_kindLine units kind
  · rw [List.mem_singleton.1 hline]
    exact List.not_mem_nil

theorem splitOn_summary (units : List CoverableUnit) : (Report.summary units).splitOn '\n' = summaryLines units := by
  rw [summary_eq, joinLines_eq_intercalate]
  exact List.splitOn_intercalate '\n' (feed_not_mem_summaryLines units) (List.cons_ne_nil _ _)

theorem ofSummary_summary (units : List CoverableUnit) :
    ofSummary (Report.summary units) = some (Summary.ofUnits units) := by
  rw [ofSummary, splitOn_summary, summaryLines]
  simp only [isPrefixOf?_append, Option.bind_eq_bind, Option.bind_some, readInt_toString]
  rfl

theorem readKind_kindLine (units : List CoverableUnit) (kind : UnitKind) :
    readKind (kindLine units kind) = some (kind.name, Summary.ofUnits (ofKind units kind)) := by
  have hratio := not_mem_ratio (Summary.ofUnits (ofKind units kind)) (show isBare ':' = false by decide) (by decide)
  rw [readKind, kindLine, isPrefixOf?_append]
  simp only [Option.bind_eq_bind, Option.bind_some]
  rw [splitOn_two (not_mem_name kind).2 (by simpa using hratio)]
  simp only [List.drop_one, List.tail_cons, readRatio_append, String.ofList_toList]
  rfl

/-- What a brief summary says of single kinds is right for the kinds that occur, and there is nothing else. -/
theorem byKind_summary (units : List CoverableUnit) : byKind (Report.summary units) =
    (occurring units).map fun kind => (kind.name, Summary.ofUnits (ofKind units kind)) := by
  have hkinds : ((occurring units).map (kindLine units)).filterMap readKind =
      (occurring units).map fun kind => (kind.name, Summary.ofUnits (ofKind units kind)) := by
    rw [List.filterMap_map, ← List.filterMap_eq_map]
    exact List.filterMap_congr fun kind _ => readKind_kindLine units kind
  have htotal (text : Text) : readKind ("Total units: ".toList ++ text) = none := rfl
  have hexecuted (text : Text) : readKind ("Executed units: ".toList ++ text) = none := rfl
  have hcoverage (text : Text) : readKind ("Coverage: ".toList ++ text) = none := rfl
  have hnil : readKind [] = none := rfl
  have htitle : readKind "By kind:".toList = none := rfl
  rw [byKind, splitOn_summary, summaryLines]
  simp only [List.filterMap_cons, htotal, hexecuted, hcoverage, List.filterMap_append, hnil, List.filterMap_nil,
    List.append_nil]
  cases units with
  | nil => rfl
  | cons u rest =>
    rw [if_neg (by simp)]
    simp only [List.filterMap_cons, hnil, htitle, hkinds]

end Tally

end ScriptCoverage
