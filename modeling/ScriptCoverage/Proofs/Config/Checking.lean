import ScriptCoverage.Proofs.Config.Setting

/-!
# When the check of settings stops

The check of settings is there to report. Yet it stops at a key that cannot be compared with the known ones, at a
format that cannot be looked for among the known ones, and at an integer that is too long to be shown. `Check.Reports`
says of a check what it reports at least and on which condition, `Check.Judges` says of the check of a value when it
is silent. There is one lemma for each check, and the conditions of all of them come to `Checkable`, which does not
mention warnings. `validate_reports` is the result: checkable settings are checked, with a warning for each key that
is not known, and with any others the check stops.
-/

namespace ScriptCoverage.Config

open ScriptCoverage.Loading

namespace Check

/-- What a check comes to, without what it logs. -/
def outcome (check : Check) : Except ConversionError (List ConfigWarning) := check.run.result

/-- What a check stops at. -/
inductive Stops : ConversionError → Prop where
  | wrongType : Stops (.fault .wrongType)
  | tooLong : Stops .tooLongToWrite

/-- A check that reports at least some warnings, in their order, if a condition is met, and stops if not. -/
def Reports (check : Check) (condition : Prop) (warnings : List ConfigWarning) : Prop :=
  (condition ∧ ∃ reported, check.outcome = .ok reported ∧ warnings.Sublist reported) ∨
    (¬ condition ∧ ∃ e, Stops e ∧ check.outcome = .error e)

theorem outcome_nothing : nothing.outcome = .ok [] := rfl

theorem outcome_warn (w : ConfigWarning) : (warn w).outcome = .ok [w] := rfl

theorem outcome_bind {α : Type} (m : ExceptT ConversionError Logged α) (f : α → Check) :
    outcome (m >>= f) = m.run.result >>= fun a => (f a).outcome :=
  Logged.result_run_bind m f

theorem outcome_ofExcept_bind {α : Type} (result : Except ConversionError α) (f : α → Check) :
    outcome (ofExcept result >>= f) = result >>= fun a => (f a).outcome :=
  outcome_bind (ofExcept result) f

theorem outcome_all_cons (check : Check) (rest : List Check) :
    (all (check :: rest)).outcome = (do
      let first ← check.outcome
      let more ← (all rest).outcome
      return first ++ more) := by
  rw [all, outcome_bind]
  refine congrArg (check.outcome >>= ·) (funext fun first => ?_)
  rw [outcome_bind]
  rfl

theorem outcome_all_append (checks more : List Check) :
    (all (checks ++ more)).outcome = (do
      let first ← (all checks).outcome
      let rest ← (all more).outcome
      return first ++ rest) := by
  induction checks with
  | nil =>
    change (all more).outcome = (all more).outcome >>= fun rest => .ok ([] ++ rest)
    cases (all more).outcome with
    | error e => rfl
    | ok rest => rfl
  | cons check checks ih =>
    rw [List.cons_append, outcome_all_cons, outcome_all_cons, ih]
    simp only [bind_assoc, pure_bind, List.append_assoc]

variable {check : Check} {checks more : List Check} {P Q : Prop} {ws vs : List ConfigWarning}

/-- Checks in a row warn of nothing if none of them does. -/
theorem outcome_all_eq_nil : (all checks).outcome = .ok [] ↔ ∀ check ∈ checks, check.outcome = .ok [] := by
  induction checks with
  | nil => simp [all, outcome_nothing]
  | cons check checks ih =>
    rw [outcome_all_cons, List.forall_mem_cons, ← ih]
    constructor
    · intro h
      obtain ⟨first, hfirst, h⟩ := of_bind_ok h
      obtain ⟨rest, hrest, h⟩ := of_bind_ok h
      obtain ⟨rfl, rfl⟩ := List.append_eq_nil_iff.1 (Except.ok.inj h)
      exact ⟨hfirst, hrest⟩
    · rintro ⟨hfirst, hrest⟩
      rw [hfirst, hrest]
      rfl

namespace Reports

theorem congr (h : check.Reports P ws) (hiff : P ↔ Q) : check.Reports Q ws := by
  rwa [← propext hiff]

theorem of_ok (h : check.outcome = .ok ws) (hP : P) : check.Reports P ws := Or.inl ⟨hP, ws, h, .refl ws⟩

theorem of_stops {e : ConversionError} (h : check.outcome = .error e) (he : Stops e) (hP : ¬ P) :
    check.Reports P ws :=
  Or.inr ⟨hP, e, he, h⟩

theorem drop (h : check.Reports P ws) : check.Reports P [] := by
  obtain ⟨hP, reported, hok, -⟩ | h := h
  · exact Or.inl ⟨hP, reported, hok, List.nil_sublist reported⟩
  · exact Or.inr h

/-- A check that comes to what two others come to, one after the other. -/
theorem both {first rest both : Check} (houtcome : both.outcome = (do
      let ws ← first.outcome
      let vs ← rest.outcome
      return ws ++ vs))
    (h : first.Reports P ws) (hrest : rest.Reports Q vs) : both.Reports (P ∧ Q) (ws ++ vs) := by
  obtain ⟨hP, reported, hok, hws⟩ | ⟨hP, e, he, herror⟩ := h
  · obtain ⟨hQ, more, hmore, hvs⟩ | ⟨hQ, e, he, herror⟩ := hrest
    · exact Or.inl ⟨⟨hP, hQ⟩, reported ++ more, by rw [houtcome, hok, hmore]; rfl, hws.append hvs⟩
    · exact of_stops (by rw [houtcome, hok, herror]; rfl) he fun h => hQ h.2
  · exact of_stops (by rw [houtcome, herror]; rfl) he fun h => hP h.1

theorem cons (h : check.Reports P ws) (hrest : (all checks).Reports Q vs) :
    (all (check :: checks)).Reports (P ∧ Q) (ws ++ vs) :=
  both (outcome_all_cons check checks) h hrest

theorem append (h : (all checks).Reports P ws) (hmore : (all more).Reports Q vs) :
    (all (checks ++ more)).Reports (P ∧ Q) (ws ++ vs) :=
  both (outcome_all_append checks more) h hmore

theorem nil : (all []).Reports True [] := of_ok outcome_nothing trivial

/-- Checks of one kind in a row. -/
theorem all_map {α : Type} {f : α → Check} {P : α → Prop} {ws : α → List ConfigWarning} {items : List α}
    (h : ∀ a ∈ items, (f a).Reports (P a) (ws a)) :
    (all (items.map f)).Reports (∀ a ∈ items, P a) (items.flatMap ws) := by
  induction items with
  | nil => exact nil.congr (by simp)
  | cons a rest ih =>
    obtain ⟨ha, hrest⟩ := List.forall_mem_cons.1 h
    exact (ha.cons (ih hrest)).congr List.forall_mem_cons.symm

end Reports

/-- A check of a value that stops unless a condition is met, and otherwise is silent exactly if the value is right. -/
def Judges (check : Check) (condition right : Prop) : Prop :=
  (condition ∧ ∃ reported, check.outcome = .ok reported ∧ (reported = [] ↔ right)) ∨
    (¬ condition ∧ ∃ e, Stops e ∧ check.outcome = .error e)

namespace Judges

variable {right : Prop}

theorem nothing (hP : P) (hright : right) : Check.nothing.Judges P right :=
  Or.inl ⟨hP, [], outcome_nothing, iff_of_true rfl hright⟩

theorem warn {w : ConfigWarning} (hP : P) (hwrong : ¬ right) : (Check.warn w).Judges P right :=
  Or.inl ⟨hP, [w], outcome_warn w, iff_of_false (List.cons_ne_nil w []) hwrong⟩

theorem congr (h : check.Judges P right) (hiff : P ↔ Q) : check.Judges Q right := by
  rwa [← propext hiff]

/-- A warning that shows something, which has to be possible. -/
theorem shown {possible : Bool} {text : String} {w : String → ConfigWarning} (hwrong : ¬ right) :
    Check.Judges (do
      let shown ← ofExcept (if possible then .ok text else .error .tooLongToWrite)
      Check.warn (w shown)) (possible = true) right := by
  cases possible with
  | true => exact Or.inl ⟨rfl, [w text], outcome_ofExcept_bind _ _, iff_of_false (List.cons_ne_nil _ _) hwrong⟩
  | false => exact Or.inr ⟨Bool.false_ne_true, _, .tooLong, outcome_ofExcept_bind _ _⟩

/-- The check of a setting has nothing to look at if the setting is not given. -/
theorem ofSetting {v? : Option Value} {P right : Value → Prop} (hnone : v? = none → check.outcome = .ok [])
    (hsome : ∀ v, v? = some v → check.Judges (P v) (right v)) :
    check.Judges (∀ v ∈ v?, P v) (∀ v ∈ v?, right v) := by
  cases v? with
  | none => exact Or.inl ⟨by simp, [], hnone rfl, by simp⟩
  | some v => simpa using hsome v rfl

theorem reports (h : check.Judges P right) : check.Reports P [] := by
  obtain ⟨hP, reported, hok, -⟩ | h := h
  · exact Or.inl ⟨hP, reported, hok, List.nil_sublist reported⟩
  · exact Or.inr h

theorem of_silent (h : check.Judges P right) (hsilent : check.outcome = .ok []) : right := by
  obtain ⟨-, reported, hok, hright⟩ | ⟨-, e, -, herror⟩ := h
  · rw [hok] at hsilent
    exact hright.1 (Except.ok.inj hsilent)
  · rw [herror] at hsilent
    cases hsilent

end Judges

end Check

open Check

/-! ## Keys -/

/-- Whether a key can be compared with names. A byte string resembles none of them. -/
def isComparable : Scalar → Bool
  | .text _ => true
  | .bytes _ => true
  | _ => false

/-- The warning of a key that is not known. -/
def keyWarning (source : String) (names : List String) (message : String → String) (place : String → Value)
    (key : Scalar) : ConfigWarning :=
  { message := message key.display, source, key := place key.display, suggestion := (suggest key names).toOption.join }

theorem exists_text_of_isKnown {names : List String} {key : Scalar} (h : isKnown names key = true) :
    ∃ name ∈ names, key = .text name := by
  cases key with
  | text name => exact ⟨name, List.contains_iff_mem.1 h, rfl⟩
  | null | bool b | int i | float x | bytes bs | date d | dateTime t => cases h

theorem checkKey_reports (source : String) (names : List String) (message : String → String) (place : String → Value)
    (key : Scalar) :
    (checkKey source names message place key).Reports (isComparable key = true)
      (if isKnown names key then [] else [keyWarning source names message place key]) := by
  unfold checkKey
  by_cases hknown : isKnown names key = true
  · obtain ⟨name, -, rfl⟩ := exists_text_of_isKnown hknown
    rw [if_pos hknown, if_pos hknown]
    exact .of_ok outcome_nothing rfl
  · rw [if_neg hknown, if_neg hknown]
    cases key with
    | text name => exact .of_ok (outcome_ofExcept_bind _ _) rfl
    | bytes bs => exact .of_ok (outcome_ofExcept_bind _ _) rfl
    | null | bool b | float x | date d | dateTime t =>
      exact .of_stops (outcome_ofExcept_bind _ _) .wrongType Bool.false_ne_true
    | int i =>
      -- the key is shown before it is compared
      by_cases hwritable : Value.isWritable (.int i) = true
      · refine .of_stops ?_ .wrongType Bool.false_ne_true
        rw [Value.checkedDisplay, if_pos hwritable, outcome_ofExcept_bind]
        rfl
      · refine .of_stops ?_ .tooLong Bool.false_ne_true
        rw [Value.checkedDisplay, if_neg hwritable, outcome_ofExcept_bind]
        rfl

/-- The keys of a mapping that are not known there. -/
def unknownKeys (names : List String) (entries : Mapping Value) : List Scalar :=
  (entries.map (·.1)).filter fun key => !isKnown names key

/-- The warnings of unknown keys at the top. -/
def topLevelWarnings (source : String) (data : Mapping Value) : List ConfigWarning :=
  (unknownKeys knownSections data).map fun key =>
    keyWarning source knownSections (fun shown => s!"Unknown top-level key '{shown}'") (fun _ => .scalar key) key

/-- The warnings of unknown keys in a section, if it has a fixed set of them. -/
def sectionWarnings (source : String) (data : Mapping Value) (name : String) : List ConfigWarning :=
  match knownKeys name with
  | none => []
  | some names => (unknownKeys names (sectionOf data name)).map
      (keyWarning source names (fun shown => s!"Unknown key '{name}.{shown}'") (fun shown => .text s!"{name}.{shown}"))

/-- The warnings of unknown keys, at the top and in the sections. -/
def unknownKeyWarnings (source : String) (data : Mapping Value) : List ConfigWarning :=
  topLevelWarnings source data ++ knownSections.tail.flatMap (sectionWarnings source data)

theorem map_unknownKeys (names : List String) (entries : Mapping Value) (w : Scalar → ConfigWarning) :
    (unknownKeys names entries).map w = entries.flatMap fun entry => if isKnown names entry.1 then [] else [w entry.1] := by
  induction entries with
  | nil => rfl
  | cons entry rest ih =>
    unfold unknownKeys at *
    rw [List.map_cons, List.flatMap_cons, ← ih]
    by_cases hknown : isKnown names entry.1 = true
    · rw [List.filter_cons_of_neg (by simp [hknown]), if_pos hknown, List.nil_append]
    · rw [List.filter_cons_of_pos (by simp [hknown]), if_neg hknown, List.map_cons, List.singleton_append]

/-- Settings that can be checked. Keys have to be texts or byte strings, at the top and in the sections that have a
fixed set of them; a format has to be something that can be looked for in a set; and what a warning might show has to
be possible to write. -/
structure Checkable (data : Mapping Value) : Prop where
  keys : ∀ entry ∈ data, isComparable entry.1 = true
  sectionKeys : ∀ name ∈ knownSections.tail, (knownKeys name).isSome = true →
    ∀ entry ∈ sectionOf data name, isComparable entry.1 = true
  probeName : ∀ v ∈ setting? data "instrumentation" "probe_name", v.isWritable = true
  format : ∀ v ∈ setting? data "output" "format", v.canBelong = true ∧ v.isWritable = true
  threshold : ∀ v ∈ setting? data "coverage" "threshold", isNumber v = true → v.isWritable = true

theorem checkable_iff (data : Mapping Value) : Checkable data ↔
    ((∀ entry ∈ data, isComparable entry.1 = true) ∧
      ∀ name ∈ knownSections.tail, (knownKeys name).isSome = true →
        ∀ entry ∈ sectionOf data name, isComparable entry.1 = true) ∧
    (∀ v ∈ setting? data "instrumentation" "probe_name", v.isWritable = true) ∧
    (∀ v ∈ setting? data "output" "format", v.canBelong = true ∧ v.isWritable = true) ∧
    (∀ v ∈ setting? data "coverage" "threshold", isNumber v = true → v.isWritable = true) := by
  constructor
  · rintro ⟨hkeys, hsections, hprobe, hformat, hthreshold⟩
    exact ⟨⟨hkeys, hsections⟩, hprobe, hformat, hthreshold⟩
  · rintro ⟨⟨hkeys, hsections⟩, hprobe, hformat, hthreshold⟩
    exact ⟨hkeys, hsections, hprobe, hformat, hthreshold⟩

instance (data : Mapping Value) : Decidable (Checkable data) := decidable_of_iff _ (checkable_iff data).symm

variable (source : String) (data : Mapping Value)

theorem checkTopLevel_reports : (checkTopLevel source data).Reports (∀ entry ∈ data, isComparable entry.1 = true)
    (topLevelWarnings source data) := by
  unfold topLevelWarnings checkTopLevel
  rw [map_unknownKeys]
  exact .all_map fun entry _ => checkKey_reports source knownSections _ _ entry.1

/-- A section without entries can be checked, whatever it is. -/
theorem reports_of_noEntries {check : Check} {ws : List ConfigWarning} {name : String} (hentries : sectionOf data name = [])
    (h : check.outcome = .ok ws) : check.Reports
      ((knownKeys name).isSome = true → ∀ entry ∈ sectionOf data name, isComparable entry.1 = true)
      (sectionWarnings source data name) := by
  have hwarnings : sectionWarnings source data name = [] := by
    unfold sectionWarnings
    cases knownKeys name with
    | none => rfl
    | some names => rw [hentries]; rfl
  rw [hwarnings, hentries]
  exact (Reports.of_ok h (by simp)).drop

theorem checkSection_reports (name : String) : (checkSection source data name).Reports
    ((knownKeys name).isSome = true → ∀ entry ∈ sectionOf data name, isComparable entry.1 = true)
    (sectionWarnings source data name) := by
  unfold checkSection
  split
  · rename_i hsection
    exact reports_of_noEntries source data (by rw [sectionOf, hsection]) outcome_nothing
  · rename_i hsection
    exact reports_of_noEntries source data (by rw [sectionOf, hsection]) outcome_nothing
  · rename_i entries hsection
    have hentries : sectionOf data name = entries := by rw [sectionOf, hsection]
    unfold sectionWarnings
    rw [hentries]
    cases knownKeys name with
    | none => exact .of_ok outcome_nothing (by simp)
    | some names =>
      dsimp only
      rw [map_unknownKeys]
      exact (Reports.all_map fun entry _ => checkKey_reports source names _ _ entry.1).congr (by simp)
  · rename_i v _ hmapping hsection
    refine reports_of_noEntries source data ?_ (outcome_warn _)
    rw [sectionOf, hsection]
    split
    · rename_i entries h
      exact absurd (Option.some.inj h) (hmapping entries)
    · rfl

/-! ## Values -/

theorem checkProbe_judges : (checkProbe source data).Judges
    (∀ v ∈ setting? data "instrumentation" "probe_name", v.isWritable = true)
    (∀ v ∈ setting? data "instrumentation" "probe_name", ∃ name, probeName? v = some name) := by
  unfold checkProbe
  refine .ofSetting (fun hnone => ?_) (fun v hsome => ?_)
  · rw [hnone]
    rfl
  · rw [hsome]
    dsimp only
    cases hname : probeName? v with
    | some name =>
      obtain ⟨rfl, -⟩ := probeName?_eq_some.1 hname
      exact .nothing rfl ⟨name, rfl⟩
    | none => exact .shown (by simp)

theorem checkSandbox_judges : (checkSandbox source data).Judges True
    (∀ v ∈ setting? data "execution" "sandbox", ∃ name, v = .text name) := by
  unfold checkSandbox
  split
  · rename_i hnone
    exact .nothing trivial (by simp [hnone])
  · rename_i name hname
    exact .nothing trivial (by simp [hname])
  · rename_i v hother hsome
    refine .warn trivial fun hright => ?_
    obtain ⟨name, rfl⟩ := hright v hsome
    exact hother name rfl

theorem checkFormat_judges : (checkFormat source data).Judges
    (∀ v ∈ setting? data "output" "format", v.canBelong = true ∧ v.isWritable = true)
    (∀ v ∈ setting? data "output" "format", ∃ name ∈ knownFormats, v = .text name) := by
  unfold checkFormat
  refine .ofSetting (fun hnone => ?_) (fun v hsome => ?_)
  · rw [hnone]
    rfl
  · rw [hsome]
    dsimp only
    by_cases hname : v.canBelong = true
    · rw [if_neg (by simp [hname])]
      split
      · rename_i s
        by_cases hknown : isKnown knownFormats s = true
        · obtain ⟨name, hmem, rfl⟩ := exists_text_of_isKnown hknown
          rw [if_pos hknown]
          exact .nothing ⟨rfl, rfl⟩ ⟨name, hmem, rfl⟩
        · rw [if_neg hknown]
          refine (Judges.shown ?_).congr (iff_and_self.2 fun _ => hname)
          rintro ⟨name, hmem, h⟩
          cases h
          exact hknown (List.contains_iff_mem.2 hmem)
      · rename_i hother
        rw [if_neg Bool.false_ne_true]
        refine (Judges.shown ?_).congr (iff_and_self.2 fun _ => hname)
        rintro ⟨name, -, rfl⟩
        exact hother _ rfl
    · rw [if_pos (by simp [hname])]
      exact Or.inr ⟨fun h => hname h.1, _, .wrongType, rfl⟩

/-- What lies between 0 and 100 can be written. -/
theorem isWritable_of_inRange {v : Value} (hnumber : isNumber v = true) (hlow : Value.intLe? 0 v = some true)
    (hhigh : v.leInt? 100 = some true) : v.isWritable = true := by
  unfold isNumber at hnumber
  split at hnumber
  · rename_i i
    have hlow : 0 ≤ i := by simpa [Value.intLe?] using hlow
    have hhigh : i ≤ 100 := by simpa [Value.leInt?] using hhigh
    have hdigits : 3 ≤ Numeral.maxDigits := by decide
    simp only [Value.isWritable, Scalar.isWritable, decide_eq_true_eq]
    -- the limit itself is too large to be evaluated
    generalize Numeral.maxDigits = digits at hdigits ⊢
    calc i.natAbs < 10 ^ 3 := by omega
      _ ≤ 10 ^ digits := Nat.pow_le_pow_right (by decide) hdigits
  · rfl
  · cases hnumber

theorem checkThreshold_judges : (checkThreshold source data).Judges
    (∀ v ∈ setting? data "coverage" "threshold", isNumber v = true → v.isWritable = true)
    (∀ v ∈ setting? data "coverage" "threshold",
      isNumber v = true ∧ Value.intLe? 0 v = some true ∧ v.leInt? 100 = some true) := by
  unfold checkThreshold
  refine .ofSetting (fun hnone => ?_) (fun v hsome => ?_)
  · rw [hnone]
    rfl
  · rw [hsome]
    dsimp only
    by_cases hnumber : isNumber v = true
    · rw [if_neg (by simp [hnumber])]
      split
      · rename_i hrange
        exact .nothing (fun _ => isWritable_of_inRange hnumber hrange.1 hrange.2) ⟨hnumber, hrange⟩
      · rename_i hrange
        exact (Judges.shown fun h => hrange h.2).congr (by simp [hnumber])
    · rw [if_pos (by simp [hnumber])]
      exact .warn (fun h => absurd h hnumber) fun h => hnumber h.1

theorem checkTimeout_judges : (checkTimeout source data).Judges True
    (∀ v ∈ setting? data "fetch" "timeout", isNumber v = true ∧ v.leInt? 0 ≠ some true) := by
  unfold checkTimeout
  split
  · rename_i hnone
    exact .nothing trivial (by simp [hnone])
  · rename_i v hsome
    split
    · rename_i hright
      exact .nothing trivial (by simpa [hsome] using hright)
    · rename_i hwrong
      exact .warn trivial fun h => hwrong (h v hsome)

/-! ## All checks -/

/-- All checks together stop where one of them does. -/
theorem reports_validate : (validate source (.mapping data)).Reports (Checkable data) (unknownKeyWarnings source data) := by
  have hkeys : (all ([checkTopLevel source data] ++ knownSections.tail.map (checkSection source data))).Reports _ _ :=
    (checkTopLevel_reports source data).cons (.all_map fun name _ => checkSection_reports source data name)
  have hvalues : (all [checkProbe source data, checkSandbox source data, checkFormat source data,
      checkThreshold source data, checkTimeout source data]).Reports _ [] :=
    (checkProbe_judges source data).reports.cons <| (checkSandbox_judges source data).reports.cons <|
    (checkFormat_judges source data).reports.cons <| (checkThreshold_judges source data).reports.cons <|
    (checkTimeout_judges source data).reports.cons .nil
  have hall := (hkeys.append hvalues).congr (Q := Checkable data) (by
    rw [checkable_iff]
    simp only [true_and, and_true])
  rwa [List.append_nil] at hall

/-- **The check** of settings that can be checked warns of each key that is not known, whatever else it warns of; at
any other settings it stops. -/
theorem validate_reports : (Checkable data ∧ ∃ warnings, (validate source (.mapping data)).outcome = .ok warnings ∧
      (unknownKeyWarnings source data).Sublist warnings) ∨
    (¬ Checkable data ∧ ∃ e, Stops e ∧ (validate source (.mapping data)).outcome = .error e) :=
  reports_validate source data

/-- A key that is a number stops the check, though no key ought to. -/
theorem not_reports_numeral : ¬ ∃ warnings, (validate "c.yml" (.mapping [(.int 1, .int 2)])).outcome = .ok warnings := by
  rintro ⟨warnings, h⟩
  have hcheckable : ¬ Checkable [(.int 1, .int 2)] := by decide
  obtain ⟨hcheckable', -⟩ | ⟨-, e, -, herror⟩ := reports_validate "c.yml" [(.int 1, .int 2)]
  · exact hcheckable hcheckable'
  · rw [herror] at h
    cases h

end ScriptCoverage.Config
