import ScriptCoverage.Proofs.Config.Checking
import ScriptCoverage.Proofs.Unit.Percentage

/-!
# Settings that pass the check

The check and the reader of settings look at the same entries in different ways: a setting that is null is none to the
check and a value to the reader. `Faultless` is what the check sees if it warns of nothing, `Usable` is what one expects
of the settings that are read then, and `usable_iff` says what it takes in between: no setting may be null, and the
timeout has to be a number that is one (`Settled`). A null, a NaN and an integer beyond the range of numbers pass the
check and are not usable.
-/

namespace ScriptCoverage

namespace Binary64

variable {i : Int} {n : Nat} {x : Binary64}

theorem intLe_whole (h : i ≤ n) : intLe i (finite false (n * one)) = true := by
  have hscaled : i * one ≤ n * one := Int.mul_le_mul_of_nonneg_right h (Int.natCast_nonneg one)
  simpa only [intLe, signedUnits, Bool.false_eq_true, if_false, Nat.cast_mul, decide_eq_true_eq] using hscaled

theorem leInt_whole (h : n ≤ i) : leInt (finite false (n * one)) i = true := by
  have hscaled : n * one ≤ i * one := Int.mul_le_mul_of_nonneg_right h (Int.natCast_nonneg one)
  simpa only [leInt, signedUnits, Bool.false_eq_true, if_false, Nat.cast_mul, decide_eq_true_eq] using hscaled

/-- A positive integer is not rounded down to zero. -/
theorem zero_lt_ofInt (h : 0 < i) : zero.lt (ofInt i) = true := by
  have hunits : 0 < roundUnits (i.natAbs * one) 1 := by
    have hround := le_roundUnits_add (i.natAbs * one) Nat.one_pos
    have hlarge : 1 * one ≤ i.natAbs * one := Nat.mul_le_mul_right one (by omega)
    have := one_within.2
    omega
  have hsign : decide (i < 0) = false := decide_eq_false (by omega)
  unfold ofInt ofRatio ofUnits
  rw [hsign]
  dsimp only
  split
  · exact congrArg not (decide_eq_false (Int.not_le.2 (Int.natCast_pos.2 hunits)))
  · rfl

/-- What is not at most zero is above it, unless it is no number. -/
theorem zero_lt_of_not_leInt (hnumber : ∀ payload, x ≠ .nan payload) (h : x.leInt 0 ≠ true) :
    zero.lt x = true := by
  cases x with
  | nan payload => exact absurd rfl (hnumber payload)
  | infinite negative =>
    cases negative with
    | false => rfl
    | true => exact absurd rfl h
  | finite negative units =>
    have hunits : ¬ signedUnits negative units ≤ 0 * one := fun hle => h (decide_eq_true hle)
    rw [Int.zero_mul] at hunits
    exact congrArg not (decide_eq_false hunits)

end Binary64

namespace Config

open Check ScriptCoverage.Loading

variable {source : String} {data : Mapping Value}

/-! ## What the check sees -/

/-- Settings whose values the check has nothing to say about. -/
structure Faultless (data : Mapping Value) : Prop where
  probeName : ∀ v ∈ setting? data "instrumentation" "probe_name", ∃ name, probeName? v = some name
  sandbox : ∀ v ∈ setting? data "execution" "sandbox", ∃ name, v = .text name
  format : ∀ v ∈ setting? data "output" "format", ∃ name ∈ knownFormats, v = .text name
  threshold : ∀ v ∈ setting? data "coverage" "threshold",
    isNumber v = true ∧ Value.intLe? 0 v = some true ∧ v.leInt? 100 = some true
  timeout : ∀ v ∈ setting? data "fetch" "timeout", isNumber v = true ∧ v.leInt? 0 ≠ some true

theorem Faultless.of_validate (h : (validate source (.mapping data)).outcome = .ok []) : Faultless data := by
  have hchecks := outcome_all_eq_nil.1 h
  simp only [List.forall_mem_append, List.forall_mem_cons] at hchecks
  obtain ⟨-, hprobe, hsandbox, hformat, hthreshold, htimeout, -⟩ := hchecks
  exact {
    probeName := (checkProbe_judges source data).of_silent hprobe
    sandbox := (checkSandbox_judges source data).of_silent hsandbox
    format := (checkFormat_judges source data).of_silent hformat
    threshold := (checkThreshold_judges source data).of_silent hthreshold
    timeout := (checkTimeout_judges source data).of_silent htimeout }

/-! ## What is usable -/

/-- Settings to work with: a sandbox has a name, a probe name is one, a format is known, and the numbers are in their
ranges. -/
structure Usable (config : Config) : Prop where
  sandbox : ∃ name, config.sandbox = .text name
  probeName : Probe.isName config.probeName = true
  format : ∃ name ∈ knownFormats, config.format = .text name
  threshold : Binary64.intLe 0 config.threshold = true ∧ config.threshold.leInt 100 = true
  timeout : Binary64.zero.lt config.timeout = true

/-- Settings that are not null where they are given, with a timeout that has a place among the numbers. -/
structure Settled (data : Mapping Value) : Prop where
  probeName : (sectionOf data "instrumentation").get? "probe_name" ≠ some .null
  sandbox : (sectionOf data "execution").get? "sandbox" ≠ some .null
  format : (sectionOf data "output").get? "format" ≠ some .null
  threshold : (sectionOf data "coverage").get? "threshold" ≠ some .null
  timeout : (sectionOf data "fetch").get? "timeout" ≠ some .null
  timeoutNumber : ∀ payload, (sectionOf data "fetch").get? "timeout" ≠ some (.float (.nan payload))
  timeoutInRange : ∀ i, (sectionOf data "fetch").get? "timeout" = some (.int i) → (Binary64.ofInt i).isFinite = true

theorem setting?_eq_get? {name key : String} (h : (sectionOf data name).get? key ≠ some .null) :
    setting? data name key = (sectionOf data name).get? key := by
  unfold setting?
  split
  · rename_i hnull
    exact absurd hnull h
  · rfl

/-- What holds of a setting that is given and of its default holds of the setting. -/
theorem getD_of {P : Value → Prop} {v? : Option Value} (default : Value) (hgiven : ∀ v ∈ v?, P v)
    (hdefault : P default) : P (v?.getD default) := by
  cases v? with
  | none => exact hdefault
  | some v => exact hgiven v rfl

/-- A threshold that the check accepts can be read, and reading leaves it where it is. -/
theorem exists_threshold {v : Value} (h : isNumber v = true ∧ Value.intLe? 0 v = some true ∧ v.leInt? 100 = some true) :
    ∃ x, v.toFloat = .ok x ∧ Binary64.intLe 0 x = true ∧ x.leInt 100 = true := by
  obtain ⟨hnumber, hlow, hhigh⟩ := h
  unfold isNumber at hnumber
  split at hnumber
  · rename_i i
    have hlow : 0 ≤ i := by simpa [Value.intLe?] using hlow
    have hhigh : i ≤ 100 := by simpa [Value.leInt?] using hhigh
    obtain ⟨n, rfl⟩ := Int.eq_ofNat_of_zero_le hlow
    have hpercent : Binary64.ofInt n = .finite false (n * Binary64.one) := Binary64.ofInt_percent n (by omega)
    refine ⟨.finite false (n * Binary64.one), ?_, Binary64.intLe_whole hlow, Binary64.leInt_whole hhigh⟩
    rw [Value.toFloat, hpercent]
    rfl
  · rename_i x
    exact ⟨x, rfl, Option.some.inj hlow, Option.some.inj hhigh⟩
  · cases hnumber

/-- A timeout that the check accepts is positive, if it can be read as a number that is one. -/
theorem exists_timeout {v : Value} (h : isNumber v = true ∧ v.leInt? 0 ≠ some true)
    (hnumber : ∀ payload, v ≠ .float (.nan payload)) (hrange : ∀ i, v = .int i → (Binary64.ofInt i).isFinite = true) :
    ∃ x, v.toFloat = .ok x ∧ Binary64.zero.lt x = true := by
  obtain ⟨hkind, hpositive⟩ := h
  unfold isNumber at hkind
  split at hkind
  · rename_i i
    have hpos : 0 < i := by simpa [Value.leInt?] using hpositive
    exact ⟨Binary64.ofInt i, by simp [Value.toFloat, hrange i rfl], Binary64.zero_lt_ofInt hpos⟩
  · rename_i x
    refine ⟨x, rfl, Binary64.zero_lt_of_not_leInt (fun payload hx => hnumber payload (by rw [hx])) ?_⟩
    simpa [Value.leInt?] using hpositive
  · cases hkind

theorem exists_usable (h : Faultless data) (hsettled : Settled data) :
    ∃ config : Config, config.ReadFrom data ∧ config.Usable := by
  have hprobe := h.probeName
  have hsandbox := h.sandbox
  have hformat := h.format
  have hthreshold := h.threshold
  have htimeout := h.timeout
  rw [setting?_eq_get? hsettled.probeName] at hprobe
  rw [setting?_eq_get? hsettled.sandbox] at hsandbox
  rw [setting?_eq_get? hsettled.format] at hformat
  rw [setting?_eq_get? hsettled.threshold] at hthreshold
  rw [setting?_eq_get? hsettled.timeout] at htimeout
  obtain ⟨probeName, hprobe⟩ := getD_of (.text Probe.defaultName) hprobe
    ⟨_, probeName?_eq_some.2 ⟨rfl, by decide +kernel⟩⟩
  obtain ⟨threshold, hthreshold, hlow, hhigh⟩ := getD_of (.float .zero)
    (fun v hv => exists_threshold (hthreshold v hv)) ⟨.zero, rfl, by decide +kernel, by decide +kernel⟩
  have hgiven : ∀ v ∈ (sectionOf data "fetch").get? "timeout", ∃ x, v.toFloat = .ok x ∧ Binary64.zero.lt x = true := by
    intro v hv
    refine exists_timeout (htimeout v hv) ?_ ?_
    · rintro payload rfl
      exact hsettled.timeoutNumber payload hv
    · rintro i rfl
      exact hsettled.timeoutInRange i hv
  obtain ⟨timeout, htimeout, hpositive⟩ := getD_of (.float (Binary64.ofInt 30)) hgiven
    ⟨Binary64.ofInt 30, rfl, Binary64.zero_lt_ofInt (by decide)⟩
  refine ⟨⟨probeName, _, _, _, threshold, timeout, []⟩, ⟨hprobe, rfl, rfl, rfl, hthreshold, htimeout, rfl⟩, ?_⟩
  exact {
    sandbox := getD_of _ hsandbox ⟨_, rfl⟩
    probeName := (probeName?_eq_some.1 hprobe).2
    format := getD_of _ hformat ⟨_, by decide, rfl⟩
    threshold := ⟨hlow, hhigh⟩
    timeout := hpositive }

theorem Settled.of_usable {config : Config} (hread : config.ReadFrom data) (h : config.Usable) : Settled data := by
  have hprobe := hread.probeName
  have hsandbox := hread.sandbox
  have hformat := hread.format
  have hthreshold := hread.threshold
  have htimeout := hread.timeout
  constructor
  case probeName =>
    intro hnull
    rw [hnull] at hprobe
    cases hprobe
  case sandbox =>
    intro hnull
    rw [hnull] at hsandbox
    obtain ⟨name, hname⟩ := h.sandbox
    rw [hsandbox] at hname
    cases hname
  case format =>
    intro hnull
    rw [hnull] at hformat
    obtain ⟨name, -, hname⟩ := h.format
    rw [hformat] at hname
    cases hname
  case threshold =>
    intro hnull
    rw [hnull] at hthreshold
    cases hthreshold
  case timeout =>
    intro hnull
    rw [hnull] at htimeout
    cases htimeout
  case timeoutNumber =>
    intro payload hnan
    rw [hnan] at htimeout
    have hpositive := h.timeout
    rw [← Except.ok.inj htimeout] at hpositive
    cases hpositive
  case timeoutInRange =>
    intro i hi
    rw [hi] at htimeout
    by_contra hrange
    simp [Value.toFloat, hrange] at htimeout

/-- **Usable settings.** Settings of which the check says nothing are usable if and only if they are settled. -/
theorem usable_iff (h : (validate source (.mapping data)).outcome = .ok []) :
    (∃ config, ofMapping data = .ok config ∧ config.Usable) ↔ Settled data := by
  constructor
  · rintro ⟨config, hread, husable⟩
    exact .of_usable (ofMapping_eq_ok.1 hread) husable
  · intro hsettled
    obtain ⟨config, hread, husable⟩ := exists_usable (.of_validate h) hsettled
    exact ⟨config, ofMapping_eq_ok.2 hread, husable⟩

/-- Settings for everything there is a setting for. -/
def complete : Mapping Value :=
  [(.text "version", .int 1), (.text "instrumentation", .record [("probe_name", .text "TRACK")]),
   (.text "execution", .record [("sandbox", .text "quickjs"), ("memory_limit", .int 1048576)]),
   (.text "output", .record [("format", .text "json")]), (.text "coverage", .record [("threshold", .int 80)]),
   (.text "fetch", .record [("timeout", .int 10)])]

theorem usable_iff_complete : (validate "test.yml" (.mapping complete)).outcome = .ok [] ∧
    ∃ config, ofMapping complete = .ok config ∧ config.Usable := by
  have hchecked : (validate "test.yml" (.mapping complete)).outcome = .ok [] := rfl
  refine ⟨hchecked, (usable_iff hchecked).2 ⟨nofun, nofun, nofun, nofun, nofun, nofun, fun i hi => ?_⟩⟩
  cases hi
  decide +kernel

/-- A probe name that is given as null. -/
def nameless : Mapping Value := [(.text "instrumentation", .record [("probe_name", .null)])]

/-- A timeout that is no number. -/
def timeless : Mapping Value := [(.text "fetch", .record [("timeout", .float (.nan 0))])]

/-- The check says nothing of either, and neither is usable. -/
theorem not_usable_unsettled :
    ((validate "c.yml" (.mapping nameless)).outcome = .ok [] ∧
      ¬ ∃ config, ofMapping nameless = .ok config ∧ config.Usable) ∧
    (validate "c.yml" (.mapping timeless)).outcome = .ok [] ∧
      ¬ ∃ config, ofMapping timeless = .ok config ∧ config.Usable := by
  refine ⟨⟨rfl, ?_⟩, rfl, ?_⟩
  · rintro ⟨config, hread, husable⟩
    exact (Settled.of_usable (ofMapping_eq_ok.1 hread) husable).probeName rfl
  · rintro ⟨config, hread, husable⟩
    exact (Settled.of_usable (ofMapping_eq_ok.1 hread) husable).timeoutNumber 0 rfl

end Config

end ScriptCoverage
