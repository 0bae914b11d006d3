import ScriptCoverage.Proofs.Command.Reporting
import ScriptCoverage.Proofs.Unit.Percentage

/-!
# The coverage gate

A script that executed without an error is held against the threshold, and nothing else decides between the exit
codes 0 and 1 (`Program.main_gated`). With what is known of percentages this says when the gate is exact
(`Program.gate_exact_iff`): a threshold of 29, 57 or 58 percent fails a script that meets it exactly, and every other
whole threshold is decided as the counts of units demand it.
-/

namespace ScriptCoverage

open ScriptCoverage.Action

namespace Cover

/-- A script that ended well ends below the threshold exactly if its percentage does not reach it. -/
theorem code_gated (summary : Summary) (threshold : Binary64) :
    (gated .success summary threshold).code = 1 ↔ ¬ summary.passed threshold = true := by
  unfold gated
  cases summary.passed threshold
  · exact ⟨fun _ => Bool.false_ne_true, fun _ => rfl⟩
  · exact ⟨fun h => absurd h (by decide), fun h => absurd rfl h⟩

end Cover

namespace Program

variable {words : List String} {s : Session} {p : Prepared}

/-- An execution that raises nothing ends with the status that the threshold gives it. -/
theorem main_gated (h : prepared? words s = some p) (hraised : p.raised = false) :
    ∃ t, (main words).run s =
      ({ outcome := .ok (Cover.gated .success (Summary.ofUnits p.units) p.threshold), level := p.level }, t) := by
  obtain ⟨flags, command, options, config, script, text, s₁, s₂, s₃, s₄, hstages⟩ := stages_of_prepared? h
  obtain ⟨after, t, hregistry, hkeeps, hperform⟩ :=
    Cover.exec_perform hstages.not_executed script.label p.sandbox p.session
  have hcall : p.run.execution p.sandbox p.session = p.call := rfl
  rw [hcall] at hregistry hperform
  have hout : ∃ value, p.call.outcome p.run.tracker.registry = .ok value := by
    rcases p.outcome_cases with ⟨-, -, hvalue⟩ | ⟨hraise, -⟩ | ⟨hraise, -⟩
    · exact hvalue
    · rw [hraised] at hraise; cases hraise
    · rw [hraised] at hraise; cases hraise
  obtain ⟨value, hvalue⟩ := hout
  rw [hvalue] at hperform
  have hwrite : t.canWrite p.output = true := by
    have := hstages.canWrite
    unfold Session.canWrite at *
    rw [hkeeps.1, hkeeps.2.1]
    exact this
  obtain ⟨u, hreport, -⟩ := hstages.exec_report hperform hwrite
  have hsummary : after.summary = Summary.ofUnits p.units := by
    rw [CoverageRun.summary, CoverageRun.units, hregistry]; rfl
  rw [hsummary] at hreport
  exact ⟨u, hstages.main_of_report hreport⟩

/-- **The gate.** A threshold that the units meet exactly counts as missed if it is 29, 57 or 58, and for no other
whole number up to 100; a threshold that they do not meet exactly is compared rightly, at least with up to 2 ^ 45
units. The program ends with the exit code 1 just if the threshold counts as missed. -/
theorem gate_exact_iff {executed total threshold : Nat} (hpos : 0 < total) (hle : executed ≤ total)
    (ht : threshold ≤ 100) :
    (threshold * total = 100 * executed →
      ((Summary.mk total executed).passed (Binary64.ofInt threshold) = true ↔ threshold ∉ [29, 57, 58])) ∧
    (threshold * total ≠ 100 * executed → total ≤ 2 ^ 45 →
      ((Summary.mk total executed).passed (Binary64.ofInt threshold) = true ↔ threshold * total ≤ 100 * executed)) ∧
    ∀ words s p, prepared? words s = some p → p.raised = false → p.threshold = Binary64.ofInt threshold →
      Summary.ofUnits p.units = ⟨total, executed⟩ →
      ∃ status t, (main words).run s = ({ outcome := .ok status, level := p.level }, t) ∧
        (status.code = 1 ↔ ¬ (Summary.mk total executed).passed (Binary64.ofInt threshold) = true) := by
  refine ⟨Summary.passed_of_met hpos hle ht, fun hne hmany => ?_, ?_⟩
  · rw [Summary.passed_iff hpos hle ht hmany]
    exact ⟨fun h => h.1, fun h => ⟨h, fun hmet => absurd hmet hne⟩⟩
  · intro words s p hprepared hraised hthreshold hsummary
    obtain ⟨t, hmain⟩ := main_gated hprepared hraised
    refine ⟨_, t, hmain, ?_⟩
    rw [Cover.code_gated, hsummary, hthreshold]

/-- A script whose one unit is not executed fails the threshold of 29 percent. -/
theorem gate_exact_idle :
    ∃ p, prepared? ["run", "app.js", "--fail-under", "29"] (scriptSession {}) = some p ∧
      ∃ status t, (main ["run", "app.js", "--fail-under", "29"]).run (scriptSession {}) =
        ({ outcome := .ok status, level := p.level }, t) ∧ status.code = 1 := by
  have hsome : (prepared? ["run", "app.js", "--fail-under", "29"] (scriptSession {})).any (fun p =>
      !p.raised && p.threshold == Binary64.ofInt (29 : Nat) && Summary.ofUnits p.units == ⟨1, 0⟩) = true := by
    decide +kernel
  obtain ⟨p, hp, hgate⟩ := (Option.any_eq_true _ _).1 hsome
  simp only [Bool.and_eq_true, Bool.not_eq_true', beq_iff_eq] at hgate
  obtain ⟨⟨hraised, hthreshold⟩, hsummary⟩ := hgate
  obtain ⟨-, hcompared, hrun⟩ := gate_exact_iff (show 0 < 1 by decide) (show 0 ≤ 1 by decide)
    (show 29 ≤ 100 by decide)
  obtain ⟨status, t, hmain, hcode⟩ := hrun _ _ p hp hraised hthreshold hsummary
  refine ⟨p, hp, status, t, hmain, hcode.2 ?_⟩
  rw [hcompared (by decide) (by decide)]
  decide

/-- 29 units of a hundred miss the threshold of 29 percent. -/
theorem not_gate_exact : ¬ ((Summary.mk 100 29).passed (Binary64.ofInt 29) = true ↔ 29 * 100 ≤ 100 * 29) := by
  decide +kernel

end Program

end ScriptCoverage
