import ScriptCoverage.Proofs.Config.Refusal
import ScriptCoverage.Proofs.Number.Range
import ScriptCoverage.Proofs.Probe.Identifier

/-!
# What conversion comes to

Conversion looks at three settings, at the probe name first and then at the two numbers, and what it comes to hangs on
the first of them that is not as it has to be. Settings that are all as they have to be are converted (`Convertible`),
and all others are meant to be refused. Two kinds are not: an integer beyond the range of numbers, and a value in the
place of the probe name that is too long for the message (`Unconverted`). `ofMapping_ends` says that there is nothing
else, whatever the keys and the values are.
-/

namespace ScriptCoverage.Config

open ScriptCoverage.Loading

variable {data : Mapping Value} {v : Value} {e : Failure}

/-! ## The settings that are looked at -/

/-- The probe name in force: what is given, or the default. -/
def probeSetting (data : Mapping Value) : Value :=
  ((sectionOf data "instrumentation").get? "probe_name").getD (.text Probe.defaultName)

/-- The threshold in force. -/
def thresholdSetting (data : Mapping Value) : Value :=
  ((sectionOf data "coverage").get? "threshold").getD (.float .zero)

/-- The timeout in force. -/
def timeoutSetting (data : Mapping Value) : Value :=
  ((sectionOf data "fetch").get? "timeout").getD (.float (Binary64.ofInt 30))

/-- A value that is the name of probes: an identifier, possibly with a line feed behind it. -/
def Names (v : Value) : Prop := ∃ name : String, v = .text name ∧ Probe.IdentifierLine name.toList

/-- A value that is a number or can be read as one. -/
def Numeric (v : Value) : Prop := ∃ x, v.toFloat = .ok x

/-- An integer that no finite number is near to. -/
def BeyondNumbers (v : Value) : Prop := ∃ i : Int, v = .int i ∧ 2 ^ 1024 ≤ i.natAbs + 2 ^ 970

/-- Settings that can be converted. -/
structure Convertible (data : Mapping Value) : Prop where
  probeName : Names (probeSetting data)
  threshold : Numeric (thresholdSetting data)
  timeout : Numeric (timeoutSetting data)

/-- Settings at which conversion stops without refusing them. -/
inductive Unconverted (data : Mapping Value) : Failure → Prop where
  | longName (notNamed : ¬ Names (probeSetting data)) (long : (probeSetting data).isWritable = false) :
      Unconverted data (.conversion .tooLongToWrite)
  | highThreshold (named : Names (probeSetting data)) (high : BeyondNumbers (thresholdSetting data)) :
      Unconverted data (.fault .overflow)
  | highTimeout (named : Names (probeSetting data)) (threshold : Numeric (thresholdSetting data))
      (high : BeyondNumbers (timeoutSetting data)) : Unconverted data (.fault .overflow)

/-! ## One setting -/

theorem beyondNumbers_iff : BeyondNumbers v ↔ v.toFloat = .error (.fault .overflow) := by
  simp only [BeyondNumbers, toFloat_eq_fault, true_and, Bool.eq_false_iff, ne_eq, Binary64.isFinite_ofInt_iff,
    Nat.not_lt]

theorem BeyondNumbers.not_numeric (h : BeyondNumbers v) : ¬ Numeric v := by
  rintro ⟨x, hx⟩
  rw [beyondNumbers_iff.1 h] at hx
  cases hx

theorem BeyondNumbers.cause_eq (h : BeyondNumbers v) (herror : checkNumber v = .error e) : e = .fault .overflow := by
  rw [checkNumber, beyondNumbers_iff.1 h] at herror
  exact (Except.error.inj herror).symm

theorem names_iff : Names v ↔ ∃ name, checkProbeName v = .ok name := by
  simp only [Names, checkProbeName_eq_ok, probeName?_eq_some, Probe.isName_iff]

theorem numeric_iff : Numeric v ↔ ∃ x, checkNumber v = .ok x := by
  simp only [Numeric, checkNumber_eq_ok]

theorem Names.checked (h : Names v) : checkProbeName v ≠ .error e := by
  obtain ⟨name, hname⟩ := names_iff.1 h
  rw [hname]
  simp

theorem Numeric.checked (h : Numeric v) : checkNumber v ≠ .error e := by
  obtain ⟨x, hx⟩ := numeric_iff.1 h
  rw [hx]
  simp

/-- What is no probe name is refused, if it can be written. -/
theorem checkProbeName_eq_error (h : checkProbeName v = .error e) :
    (∃ cause, e = .config cause) ∧ v.isWritable = true ∨
      e = .conversion .tooLongToWrite ∧ v.isWritable = false := by
  unfold checkProbeName Value.checkedLiteral at h
  split at h
  · cases h
  · split at h
    · rename_i hwritable
      cases h
      exact Or.inl ⟨⟨_, rfl⟩, hwritable⟩
    · rename_i hlong
      cases h
      exact Or.inr ⟨rfl, Bool.eq_false_iff.2 hlong⟩

/-- What is no number is refused, unless it is beyond all numbers. -/
theorem checkNumber_eq_error (h : checkNumber v = .error e) :
    (∃ cause, e = .config cause) ∧ ¬ BeyondNumbers v ∨ e = .fault .overflow ∧ BeyondNumbers v := by
  unfold checkNumber at h
  split at h
  · cases h
  · rename_i f hfault
    cases h
    obtain ⟨rfl, -⟩ := toFloat_eq_fault.1 hfault
    exact Or.inr ⟨rfl, beyondNumbers_iff.2 hfault⟩
  · rename_i cause hother hcause
    cases h
    refine Or.inl ⟨⟨_, rfl⟩, fun hbeyond => ?_⟩
    rw [beyondNumbers_iff.1 hbeyond] at hcause
    cases hcause
    exact hother _ rfl

/-! ## All settings -/

/-- Conversion fails at the first setting that is not as it has to be. -/
theorem ofMapping_eq_error (h : ofMapping data = .error e) :
    checkProbeName (probeSetting data) = .error e ∨
      Names (probeSetting data) ∧ (checkNumber (thresholdSetting data) = .error e ∨
        Numeric (thresholdSetting data) ∧ checkNumber (timeoutSetting data) = .error e) := by
  rcases of_bind_error h with hprobe | ⟨name, hname, h⟩
  · exact Or.inl hprobe
  · refine Or.inr ⟨names_iff.2 ⟨name, hname⟩, ?_⟩
    rcases of_bind_error h with hthreshold | ⟨threshold, hthreshold, h⟩
    · exact Or.inl hthreshold
    · refine Or.inr ⟨numeric_iff.2 ⟨threshold, hthreshold⟩, ?_⟩
      rcases of_bind_error h with htimeout | ⟨timeout, -, h⟩
      · dsimp only at htimeout
        exact htimeout
      · cases h

theorem exists_ofMapping_iff : (∃ config, ofMapping data = .ok config) ↔ Convertible data := by
  constructor
  · rintro ⟨config, h⟩
    have hread := ofMapping_eq_ok.1 h
    exact ⟨⟨_, (probeName?_eq_some.1 hread.probeName).imp_right (Probe.isName_iff _).1⟩, ⟨_, hread.threshold⟩,
      ⟨_, hread.timeout⟩⟩
  · rintro ⟨⟨name, hname, hline⟩, ⟨threshold, hthreshold⟩, ⟨timeout, htimeout⟩⟩
    exact ⟨⟨name, _, _, _, threshold, timeout, []⟩, ofMapping_eq_ok.2
      ⟨probeName?_eq_some.2 ⟨hname, (Probe.isName_iff name).2 hline⟩, rfl, rfl, rfl, hthreshold, htimeout, rfl⟩⟩

/-- What fails is refused, or it is one of the settings at which conversion stops. -/
theorem refused_or_unconverted (h : ofMapping data = .error e) : (∃ cause, e = .config cause) ∨ Unconverted data e := by
  rcases ofMapping_eq_error h with hprobe | ⟨hnamed, hthreshold | ⟨hnumeric, htimeout⟩⟩
  · have hnot : ¬ Names (probeSetting data) := by
      rw [names_iff, hprobe]
      rintro ⟨name, hname⟩
      cases hname
    rcases checkProbeName_eq_error hprobe with ⟨hcause, -⟩ | ⟨rfl, hlong⟩
    · exact Or.inl hcause
    · exact Or.inr (.longName hnot hlong)
  · rcases checkNumber_eq_error hthreshold with ⟨hcause, -⟩ | ⟨rfl, hhigh⟩
    · exact Or.inl hcause
    · exact Or.inr (.highThreshold hnamed hhigh)
  · rcases checkNumber_eq_error htimeout with ⟨hcause, -⟩ | ⟨rfl, hhigh⟩
    · exact Or.inl hcause
    · exact Or.inr (.highTimeout hnamed hnumeric hhigh)

theorem Unconverted.not_convertible (h : Unconverted data e) : ¬ Convertible data := by
  intro hconvertible
  cases h with
  | longName notNamed long => exact notNamed hconvertible.probeName
  | highThreshold named high => exact high.not_numeric hconvertible.threshold
  | highTimeout named threshold high => exact high.not_numeric hconvertible.timeout

/-- Where conversion stops it comes to nothing else. -/
theorem Unconverted.ofMapping_eq (h : Unconverted data e) : ofMapping data = .error e := by
  cases hresult : ofMapping data with
  | ok config => exact absurd (exists_ofMapping_iff.1 ⟨config, hresult⟩) h.not_convertible
  | error cause =>
    have hfirst := ofMapping_eq_error hresult
    cases h with
    | longName notNamed long =>
      rcases hfirst with hprobe | ⟨hnamed, -⟩
      · rcases checkProbeName_eq_error hprobe with ⟨-, hwritable⟩ | ⟨rfl, -⟩
        · rw [long] at hwritable
          cases hwritable
        · rfl
      · exact absurd hnamed notNamed
    | highThreshold named high =>
      rcases hfirst with hprobe | ⟨-, hthreshold | ⟨hnumeric, -⟩⟩
      · exact absurd hprobe named.checked
      · exact congrArg _ (high.cause_eq hthreshold)
      · exact absurd hnumeric high.not_numeric
    | highTimeout named threshold high =>
      rcases hfirst with hprobe | ⟨-, hthreshold | ⟨-, htimeout⟩⟩
      · exact absurd hprobe named.checked
      · exact absurd hthreshold threshold.checked
      · exact congrArg _ (high.cause_eq htimeout)

/-- **The ends of conversion.** Settings are converted if and only if the probe name in force is one and the threshold
and the timeout in force can be read as numbers. All others are refused, but for two kinds at which conversion stops
with another failure: a value in the place of the probe name that is too long to be shown, and an integer beyond the
range of numbers as threshold or timeout. -/
theorem ofMapping_ends (data : Mapping Value) :
    ((∃ config, ofMapping data = .ok config) ↔ Convertible data) ∧
    ((∃ cause, ofMapping data = .error (.config cause)) ↔ ¬ Convertible data ∧ ∀ e, ¬ Unconverted data e) ∧
    ∀ e, (ofMapping data = .error e ∧ ∀ cause, e ≠ .config cause) ↔ Unconverted data e := by
  refine ⟨exists_ofMapping_iff, ⟨?refused, ?unrefused⟩, fun e => ⟨?stopped, ?stops⟩⟩
  case refused =>
    rintro ⟨cause, hcause⟩
    refine ⟨fun hconvertible => ?_, fun e hstop => ?_⟩
    · obtain ⟨config, hconfig⟩ := exists_ofMapping_iff.2 hconvertible
      rw [hconfig] at hcause
      cases hcause
    · rw [hstop.ofMapping_eq] at hcause
      cases hcause
      cases hstop
  case unrefused =>
    rintro ⟨hnot, hstops⟩
    cases hresult : ofMapping data with
    | ok config => exact absurd (exists_ofMapping_iff.1 ⟨config, hresult⟩) hnot
    | error e =>
      obtain ⟨cause, rfl⟩ := (refused_or_unconverted hresult).resolve_right (hstops e)
      exact ⟨cause, rfl⟩
  case stopped =>
    rintro ⟨herror, hother⟩
    exact (refused_or_unconverted herror).resolve_left fun ⟨cause, hcause⟩ => hother cause hcause
  case stops =>
    intro hstop
    refine ⟨hstop.ofMapping_eq, ?_⟩
    rintro cause rfl
    cases hstop

/-- A threshold of four hundred digits. -/
def highThreshold : Mapping Value := [(.text "coverage", .record [("threshold", .int (10 ^ 400))])]

/-- An integer of five thousand digits in the place of the probe name. -/
def longName : Mapping Value := [(.text "instrumentation", .record [("probe_name", .int (10 ^ 4999))])]

/-- Neither is converted, and neither is refused. -/
theorem not_refused_high :
    (¬ Convertible highThreshold ∧ ¬ ∃ cause, ofMapping highThreshold = .error (.config cause)) ∧
    ¬ Convertible longName ∧ ¬ ∃ cause, ofMapping longName = .error (.config cause) := by
  have hhigh : Unconverted highThreshold (.fault .overflow) :=
    .highThreshold ⟨Probe.defaultName, rfl, (Probe.isName_iff _).1 (by decide +kernel)⟩
      ⟨10 ^ 400, rfl, by decide +kernel⟩
  have hlong : Unconverted longName (.conversion .tooLongToWrite) := by
    refine .longName ?_ (by decide +kernel)
    rintro ⟨name, hname, -⟩
    cases hname
  refine ⟨⟨hhigh.not_convertible, ?_⟩, hlong.not_convertible, ?_⟩
  · rw [hhigh.ofMapping_eq]
    simp
  · rw [hlong.ofMapping_eq]
    simp

end ScriptCoverage.Config
