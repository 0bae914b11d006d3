import ScriptCoverage.Proofs.Config.Loading

/-!
# Settings in a mapping of sections

Settings are taken from a mapping one by one, and `Config.ofMapping_eq_ok` says when that works and what comes of it:
each setting is the entry of its section, or its default, and only the probe name and the two numbers can be refused.
What was taken can be written as a mapping of sections and taken again (`Config.ofMapping_toMapping`).
-/

namespace ScriptCoverage.Config

open ScriptCoverage.Loading

variable {data : Mapping Value} {config : Config} {v : Value} {name : String} {x : Binary64}

theorem probeName?_eq_some : probeName? v = some name ↔ v = .text name ∧ Probe.isName name = true := by
  unfold probeName?
  split
  · rename_i given
    by_cases h : Probe.isName given = true
    · simp only [h, if_true, Option.some.injEq, Value.scalar.injEq, Scalar.text.injEq, iff_self_and]
      rintro rfl
      exact h
    · simp only [h, Bool.false_eq_true, if_false, reduceCtorEq, Value.scalar.injEq, Scalar.text.injEq, false_iff]
      rintro ⟨rfl, hname⟩
      exact h hname
  · rename_i hother
    simp only [reduceCtorEq, false_iff]
    rintro ⟨rfl, -⟩
    exact hother name rfl

theorem checkProbeName_eq_ok : checkProbeName v = .ok name ↔ probeName? v = some name := by
  unfold checkProbeName
  cases probeName? v with
  | some given => simp
  | none =>
    refine iff_of_false (fun h => ?_) (by simp)
    obtain ⟨_, -, h⟩ := of_bind_ok h
    cases h

theorem checkNumber_eq_ok : checkNumber v = .ok x ↔ v.toFloat = .ok x := by
  unfold checkNumber
  split
  all_goals rename_i h; simp [h]

/-- Settings that are the entries of a mapping of sections. What has no entry has its default. -/
structure ReadFrom (config : Config) (data : Mapping Value) : Prop where
  probeName : probeName? (((sectionOf data "instrumentation").get? "probe_name").getD (.text Probe.defaultName)) =
    some config.probeName
  sandbox : config.sandbox = ((sectionOf data "execution").get? "sandbox").getD (.text Plugins.defaultSandbox)
  options : config.options = (sectionOf data "execution").without "sandbox"
  format : config.format = ((sectionOf data "output").get? "format").getD (.text ReportFormat.text.name)
  threshold : (((sectionOf data "coverage").get? "threshold").getD (.float .zero)).toFloat = .ok config.threshold
  timeout : (((sectionOf data "fetch").get? "timeout").getD (.float (Binary64.ofInt 30))).toFloat = .ok config.timeout
  sources : config.sources = []

/-- **Taking settings** from a mapping works if the probe name is one and the numbers can be read. -/
theorem ofMapping_eq_ok : ofMapping data = .ok config ↔ config.ReadFrom data := by
  constructor
  · intro h
    obtain ⟨probeName, hprobe, h⟩ := of_bind_ok h
    obtain ⟨threshold, hthreshold, h⟩ := of_bind_ok h
    obtain ⟨timeout, htimeout, h⟩ := of_bind_ok h
    cases h
    dsimp only at hprobe hthreshold htimeout
    exact ⟨checkProbeName_eq_ok.1 hprobe, rfl, rfl, rfl, checkNumber_eq_ok.1 hthreshold, checkNumber_eq_ok.1 htimeout, rfl⟩
  · rintro ⟨hprobe, hsandbox, hoptions, hformat, hthreshold, htimeout, hsources⟩
    obtain ⟨probeName, sandbox, options, format, threshold, timeout, sources⟩ := config
    dsimp only at *
    simp only [ofMapping, checkProbeName_eq_ok.2 hprobe, checkNumber_eq_ok.2 hthreshold, checkNumber_eq_ok.2 htimeout,
      hsandbox, hoptions, hformat, hsources]
    rfl

/-! ## There and back -/

/-- What can be said of settings that were taken from a mapping. -/
structure Regular (config : Config) : Prop where
  probeName : Probe.isName config.probeName = true
  options : ∀ option ∈ config.options, option.1.key ≠ .text "sandbox"
  sources : config.sources = []

theorem ReadFrom.regular (h : config.ReadFrom data) : config.Regular where
  probeName := (probeName?_eq_some.1 h.probeName).2
  options := by
    intro option hoption
    rw [h.options] at hoption
    simpa using (List.mem_filter.1 hoption).2
  sources := h.sources

/-- Settings are read from the mapping that they are written as. The sandbox and the options share a section there, and
are told apart by their keys. -/
theorem Regular.readFrom_toMapping (h : config.Regular) : config.ReadFrom config.toMapping where
  probeName := probeName?_eq_some.2 ⟨rfl, h.probeName⟩
  sandbox := rfl
  options := by
    have hkept : config.options.without "sandbox" = config.options :=
      List.filter_eq_self.2 fun option hoption => by simpa using h.options option hoption
    calc config.options = config.options.without "sandbox" := hkept.symm
      _ = (sectionOf config.toMapping "execution").without "sandbox" := rfl
  format := rfl
  threshold := rfl
  timeout := rfl
  sources := h.sources

/-- **There and back.** Settings that were taken from a mapping are taken again, every one of them, from the mapping
that they are written as. -/
theorem ofMapping_toMapping (h : ofMapping data = .ok config) : ofMapping config.toMapping = .ok config := by
  have hregular : config.Regular := (ofMapping_eq_ok.1 h).regular
  exact ofMapping_eq_ok.2 hregular.readFrom_toMapping

/-- Settings that are not what they are meant to be: no sandbox between options, a list as format, and numerals of which
one is no number and the other one not positive. -/
def unusual : Mapping Value :=
  [(.text "execution", .record [("depth", .int 3), ("sandbox", .null), ("limits", .record [("sandbox", .text "no")])]),
   (.text "output", .record [("format", .list [.text "html"])]),
   (.text "coverage", .record [("threshold", .text "nan")]),
   (.text "fetch", .record [("timeout", .text "-0.0")])]

theorem ofMapping_toMapping_unusual : ∃ config : Config,
    ofMapping unusual = .ok config ∧ config.sandbox = .null ∧ config.threshold = .nan 0 ∧
      config.timeout = .finite true 0 ∧ config.options.map (·.1) = [.text "depth", .text "limits"] ∧
      ofMapping config.toMapping = .ok config := by
  have hunusual : ofMapping unusual = .ok
      { sandbox := .null
        options := [(.text "depth", .int 3), (.text "limits", .record [("sandbox", .text "no")])]
        format := .list [.text "html"]
        threshold := .nan 0
        timeout := .finite true 0 } :=
    ofMapping_eq_ok.2 ⟨by decide +kernel, rfl, rfl, rfl, rfl, rfl, rfl⟩
  exact ⟨_, hunusual, rfl, rfl, rfl, rfl, ofMapping_toMapping hunusual⟩

end ScriptCoverage.Config
