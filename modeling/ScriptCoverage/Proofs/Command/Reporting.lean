import ScriptCoverage.Proofs.Command.Preparation

/-!
# What is reported of a script

How an invocation ends that was about to execute its script depends on the engine alone. `main_reports`: the exit
code says whether the execution raised, and else whether the threshold was reached, and the report of what was
counted is written once. The exception is an execution that ends in an error with a violation pending. The run puts
the violation in the place of the engine's error, the command handles the errors of engines only, and so the report
that a failed execution is promised is not written (`main_silent_straying`).
-/

namespace ScriptCoverage

open ScriptCoverage.Action

namespace Prepared

variable (p : Prepared)

/-- The call of the engine that executes the script. -/
def call : EngineCall := p.run.execution p.sandbox p.session

/-- The arguments that the tracker receives while the script executes. -/
def received : List Value := p.call.received p.run.tracker.registry

/-- The registry with what was counted until the execution ended. -/
def counted : Registry := (p.run.tracker.trackAll p.received).registry

/-- The units in source order, with their counts. -/
def units : List CoverableUnit := Registry.sorted p.counted.units

/-- The report of what was counted. -/
def report : Text := Report.write p.format p.counted.source p.units

/-- A report has at least the line feed that ends it. -/
theorem report_ne_nil : p.report ≠ [] := by
  unfold report Report.write
  cases p.format with
  | text => exact List.append_ne_nil_of_left_ne_nil (List.append_ne_nil_of_right_ne_nil _ (by decide)) _
  | html => exact List.append_ne_nil_of_right_ne_nil _ (List.cons_ne_nil _ _)
  | json => exact List.append_ne_nil_of_right_ne_nil _ (List.cons_ne_nil _ _)
  | summary => exact List.append_ne_nil_of_right_ne_nil _ (List.cons_ne_nil _ _)

/-- Whether the execution ends in an error. -/
def raised : Bool := !(p.call.plan.ending p.run.tracker.registry.knows p.call.globals).toBool

/-- Whether the execution ends in an error and a probe left a violation. -/
def violated : Bool := p.raised && p.received.any fun argument => (p.run.tracker.registry.violation? argument).isSome

/-- The exit code that the execution and the threshold call for. -/
def exitCode : Nat := if p.raised then 2 else if (Summary.ofUnits p.units).passed p.threshold then 0 else 1

/-- An execution ends without an error, with an error of the engine, or with a violation in its place. -/
theorem outcome_cases :
    (p.raised = false ∧ p.violated = false ∧ ∃ value, p.call.outcome p.run.tracker.registry = .ok value) ∨
      (p.raised = true ∧ p.violated = false ∧ ∃ e, p.call.outcome p.run.tracker.registry = .error (.engine e)) ∨
      (p.raised = true ∧ p.violated = true ∧ ∃ u, p.call.outcome p.run.tracker.registry = .error (.unknownUnit u)) := by
  simp only [violated, raised, EngineCall.outcome]
  cases p.call.plan.ending p.run.tracker.registry.knows p.call.globals with
  | ok value => exact Or.inl ⟨rfl, rfl, value, rfl⟩
  | error e =>
    refine Or.inr ?_
    have hany : (p.received.any fun argument => (p.run.tracker.registry.violation? argument).isSome) =
        ((p.call.received p.run.tracker.registry).findSome? p.run.tracker.registry.violation?).isSome :=
      List.isSome_findSome?.symm
    rw [hany]
    cases (p.call.received p.run.tracker.registry).findSome? p.run.tracker.registry.violation? with
    | none => exact Or.inl ⟨rfl, rfl, e, rfl⟩
    | some violation => exact Or.inr ⟨rfl, rfl, violation, rfl⟩

end Prepared

/-! ## Steps that may end a command -/

namespace Cover

/-- A text, and nothing else, was written to the chosen output. -/
def Wrote (text : Text) (output : Choice Path) (s t : Session) : Prop :=
  match output with
  | .absent => t.output = s.output ++ text ∧ t.files = s.files
  | .bare => False
  | .value path => t.output = s.output ∧ s.files.write s.directory path (encodeUtf8 text) = .ok t.files

/-- Only files and output count. -/
theorem Wrote.congr {text : Text} {output : Choice Path} {s s' t t' : Session} (h : Wrote text output s t)
    (hs : s.files = s'.files ∧ s.directory = s'.directory ∧ s.output = s'.output)
    (ht : t'.files = t.files ∧ t'.output = t.output) : Wrote text output s' t' := by
  unfold Wrote at *
  rw [← hs.1, ← hs.2.1, ← hs.2.2, ht.1, ht.2]
  exact h

variable {α β : Type} {s t : Session}

theorem exec_run_bind {x : ExceptT ExitStatus Action α} {f : α → ExceptT ExitStatus Action β} {a : α}
    (h : x.run.exec s = (.ok (.ok a), t)) : (x >>= f).run.exec s = (f a).run.exec t := by
  simp only [ExceptT.run_bind]
  rw [exec_bind_ok h]

theorem exec_run_bind_error {x : ExceptT ExitStatus Action α} {f : α → ExceptT ExitStatus Action β} {e : Failure}
    (h : x.run.exec s = (.error e, t)) : (x >>= f).run.exec s = (.error e, t) := by
  simp only [ExceptT.run_bind]
  rw [exec_bind_error h]

/-- A command that has ended with a status does not go on. -/
theorem exec_run_bind_status {x : ExceptT ExitStatus Action α} {f : α → ExceptT ExitStatus Action β}
    {status : ExitStatus} (h : x.run.exec s = (.ok (.error status), t)) :
    (x >>= f).run.exec s = (.ok (.error status), t) := by
  rw [ExceptT.run_bind, exec_bind_ok h]
  rfl

theorem exec_run_lift {action : Action α} {a : α} (h : action.exec s = (.ok a, t)) :
    (liftM action : ExceptT ExitStatus Action α).run.exec s = (.ok (.ok a), t) := exec_bind_ok h

theorem exec_run_lift_error {action : Action α} {e : Failure} (h : action.exec s = (.error e, t)) :
    (liftM action : ExceptT ExitStatus Action α).run.exec s = (.error e, t) := exec_bind_error h

theorem exec_run_attempt {action : Action α} {a : α} (h : action.exec s = (.ok a, t)) :
    (liftM (attempt action) : ExceptT ExitStatus Action (Except Failure α)).run.exec s = (.ok (.ok (.ok a)), t) :=
  exec_run_lift (by rw [exec_attempt, h])

theorem exec_run_attempt_error {action : Action α} {e : Failure} (h : action.exec s = (.error e, t)) :
    (liftM (attempt action) : ExceptT ExitStatus Action (Except Failure α)).run.exec s = (.ok (.ok (.error e)), t) :=
  exec_run_lift (by rw [exec_attempt, h])

theorem exec_obtain {script : ScriptSource} {text : Text} (h : script.load.exec s = (.ok text, t)) :
    (obtain script).run.exec s = (.ok (.ok text), t) :=
  (exec_run_bind (exec_run_attempt h)).trans rfl

theorem exec_prepare {label name : String} {text : Text} {run : CoverageRun}
    (h : (instrumentSource text name).exec s = (.ok run, t)) :
    (prepare label text name).run.exec s = (.ok (.ok run), t) :=
  (exec_run_bind (exec_run_attempt h)).trans rfl

theorem exec_prepare_unparsable {label name cause : String} {text : Text}
    (h : (instrumentSource text name).exec s = (.error (.unparsable cause), t)) :
    ∃ u, (prepare label text name).run.exec s = (.ok (.error .programError), u) :=
  ⟨_, (exec_run_bind (exec_run_attempt_error h)).trans rfl⟩

theorem exec_chooseSandbox {config : Config} {sandbox : Sandbox}
    (h : (Plugins.sandbox? config.sandbox config.options).exec s = (.ok (some sandbox), t)) :
    (chooseSandbox config).run.exec s = (.ok (.ok sandbox), t) :=
  (exec_run_bind (exec_run_attempt h)).trans rfl

theorem exec_chooseSandbox_missing {config : Config} {dependency : Dependency}
    (h : (Plugins.sandbox? config.sandbox config.options).exec s = (.error (.missing dependency), t)) :
    ∃ u, (chooseSandbox config).run.exec s = (.ok (.error .missingDependency), u) :=
  ⟨_, (exec_run_bind (exec_run_attempt_error h)).trans rfl⟩

/-! ## Executing and reporting -/

/-- Executing a run counts in it, and touches neither files nor output. -/
theorem execute_keeps {run : CoverageRun} (h : run.executed = false) (sandbox : Sandbox) (s : Session) :
    let call := run.execution sandbox s
    ∃ after t, after.tracker.registry = (run.tracker.trackAll (call.received run.tracker.registry)).registry ∧
      (t.files = s.files ∧ t.directory = s.directory ∧ t.output = s.output) ∧
      (run.execute (some sandbox)).run s = ((call.outcome run.tracker.registry, after), t) := by
  obtain ⟨tracker, refusals, entries, hregistry, hexecute⟩ := run.executeIn_spec s sandbox
  rw [Session.takePlan_eq] at hexecute
  have hchosen : CoverageRun.chosen (some sandbox) s = (.ok sandbox, s) := rfl
  refine ⟨_, _, ?_, ?_, (CoverageRun.execute_of_chosen_ok h hchosen).trans hexecute⟩
  · exact hregistry
  · exact ⟨rfl, rfl, rfl⟩

/-- A command goes on from an execution that raised nothing or an error of its engine. A violation leaves it. -/
theorem exec_perform {run : CoverageRun} (h : run.executed = false) (label : String) (sandbox : Sandbox) (s : Session) :
    let call := run.execution sandbox s
    ∃ after t, after.tracker.registry = (run.tracker.trackAll (call.received run.tracker.registry)).registry ∧
      (t.files = s.files ∧ t.directory = s.directory ∧ t.output = s.output) ∧
      (perform label run sandbox).exec s = (match call.outcome run.tracker.registry with
        | .ok _ => .ok (.success, after)
        | .error (.engine _) => .ok (.programError, after)
        | .error e => .error e, t) := by
  intro call
  obtain ⟨after, t, hregistry, hkeeps, hrun⟩ := execute_keeps h sandbox s
  have hexec := exec_lift (run.execute (some sandbox)) s
  rw [hrun] at hexec
  rcases hout : call.outcome run.tracker.registry with e | value
  · rw [hout] at hexec
    cases e with
    | engine cause =>
      refine ⟨after, { t with log := t.log ++ [⟨.error, s!"{label} raised during execution: {cause.message}"⟩] },
        hregistry, hkeeps, ?_⟩
      exact (exec_bind_ok hexec).trans rfl
    | _ => exact ⟨after, t, hregistry, hkeeps, (exec_bind_ok hexec).trans rfl⟩
  · rw [hout] at hexec
    exact ⟨after, t, hregistry, hkeeps, (exec_bind_ok hexec).trans rfl⟩

/-- Whether a path can be written does not depend on what is written. -/
theorem ofOpening_write {files : FileTree} {directory path : Path} {bytes : List UInt8}
    (h : (Failure.ofOpening path (files.write directory path bytes)).toBool = true) (others : List UInt8) :
    ∃ after, files.write directory path others = .ok after ∧
      Failure.ofOpening path (files.write directory path others) = .ok after := by
  simp only [Failure.ofOpening, FileTree.write] at h ⊢
  cases hnull : path.holdsNull with
  | true => rw [hnull] at h; cases h
  | false =>
    cases hlocate : files.locate directory path with
    | error e => rw [hnull, hlocate] at h; cases h
    | ok place =>
      rw [hnull, hlocate] at h
      simp only [bind, Except.bind, Bool.false_eq_true, if_false] at h ⊢
      split at h
      · cases h
      · exact ⟨_, rfl, rfl⟩

/-- A report is written to where it can be written. -/
theorem exec_writeReport {s : Session} {output : Choice Path} (h : s.canWrite output = true) (format : ReportFormat)
    (run : CoverageRun) : ∃ t, (writeReport format run output).exec s = (.ok (), t) ∧
      Wrote (Report.write format run.source run.units) output s t := by
  cases output with
  | absent => exact ⟨_, rfl, rfl, rfl⟩
  | bare => cases h
  | value path =>
    obtain ⟨after, hwrite, hopening⟩ := ofOpening_write h (encodeUtf8 (Report.write format run.source run.units))
    have hfile : (writeText path (Report.write format run.source run.units)).exec s =
        (.ok (), { s with files := after }) := by
      simp only [writeText, exec_bind, exec_get, hopening, exec_ofExcept, exec_set]
    refine ⟨{ s with files := after, log := s.log ++ [⟨.info, s!"Report written to {path}"⟩] }, ?_, rfl, hwrite⟩
    exact (exec_bind_ok hfile).trans rfl

/-- The status of a command whose script ended with a status, held against the threshold. -/
def gated (status : ExitStatus) (summary : Summary) (threshold : Binary64) : ExitStatus :=
  if status = .success ∧ !summary.passed threshold then .belowThreshold else status

theorem exec_gate (status : ExitStatus) (summary : Summary) (threshold : Binary64) (s : Session) :
    ∃ t, (gate status summary threshold).exec s = (.ok (gated status summary threshold), t) ∧
      t.files = s.files ∧ t.output = s.output := by
  unfold gate gated
  split
  · exact ⟨_, rfl, rfl, rfl⟩
  · exact ⟨_, rfl, rfl, rfl⟩

end Cover

/-! ## From the script to the end of the program -/

namespace Program

variable {words : List String} {s s₁ s₂ s₃ s₄ t : Session} {p : Prepared} {flags : ProgramFlags} {command : Command}
  {options : CommandOptions} {config : Config} {script : Cover.ScriptSource} {text : Text}

open Cover

/-- A command comes to its script with what was prepared. -/
theorem Stages.exec_coverSource (h : Stages words s p flags command options config script text s₁ s₂ s₃ s₄) :
    (coverSource script config p.output).run.exec s₁ =
      (ExceptT.run (do
        let (status, run) ← liftM (Cover.perform script.label p.run p.sandbox)
        liftM (writeReport p.format run p.output)
        liftM (Action.log .info s!"{script.label}: {run.summary.executed}/{run.summary.total} units executed")
        liftM (gate status run.summary config.threshold) : ExceptT ExitStatus Action ExitStatus)).exec p.session := by
  refine (exec_run_bind (exec_run_lift h.format_eq)).trans ?_
  refine (exec_run_bind (exec_obtain h.text_eq)).trans ?_
  refine (exec_run_bind (exec_prepare h.run_eq)).trans ?_
  exact exec_run_bind (exec_chooseSandbox h.sandbox_eq)

/-- An execution that ends in a status is reported. -/
theorem Stages.exec_report (h : Stages words s p flags command options config script text s₁ s₂ s₃ s₄)
    {status : ExitStatus} {after : CoverageRun}
    (hperform : (Cover.perform script.label p.run p.sandbox).exec p.session = (.ok (status, after), t))
    (hwrite : t.canWrite p.output = true) :
    ∃ u, (report script config p.output).exec s₁ = (.ok (gated status after.summary p.threshold), u) ∧
      Wrote (Report.write p.format after.source after.units) p.output t u := by
  obtain ⟨u, hreport, hwrote⟩ := exec_writeReport hwrite p.format after
  have hlog := exec_log .info s!"{script.label}: {after.summary.executed}/{after.summary.total} units executed" u
  obtain ⟨v, hgate, hfiles, houtput⟩ := exec_gate status after.summary p.threshold
    { u with log := u.log ++ [⟨.info, s!"{script.label}: {after.summary.executed}/{after.summary.total} units executed"⟩] }
  rw [h.given_eq.2.2] at hgate ⊢
  have hcover : (coverSource script config p.output).run.exec s₁ =
      (.ok (.ok (gated status after.summary config.threshold)), v) := by
    rw [h.exec_coverSource]
    refine (exec_run_bind (exec_run_lift hperform)).trans ?_
    refine (exec_run_bind (exec_run_lift hreport)).trans ?_
    refine (exec_run_bind (exec_run_lift hlog)).trans ?_
    exact exec_run_lift hgate
  exact ⟨v, (exec_bind_ok hcover).trans rfl, hwrote.congr ⟨rfl, rfl, rfl⟩ ⟨hfiles, houtput⟩⟩

/-- An execution that ends in another failure is not. -/
theorem Stages.exec_report_error (h : Stages words s p flags command options config script text s₁ s₂ s₃ s₄)
    {e : Failure} (hperform : (Cover.perform script.label p.run p.sandbox).exec p.session = (.error e, t)) :
    (report script config p.output).exec s₁ = (.error e, t) := by
  have hcover : (coverSource script config p.output).run.exec s₁ = (.error e, t) := by
    rw [h.exec_coverSource]
    exact exec_run_bind_error (exec_run_lift_error hperform)
  exact exec_bind_error hcover

/-- A command that covers a script reports it. -/
theorem perform_of_script? (h : command.script? config = some script) (options : CommandOptions) :
    perform command options config = report script config options.output := by
  cases command with
  | run path => cases h; rfl
  | fetch address => cases h; rfl
  | instrument path => cases h
  | status => cases h

theorem Stages.exec_perform (h : Stages words s p flags command options config script text s₁ s₂ s₃ s₄) :
    perform command options config = report script config p.output := by
  rw [h.given_eq.2.1]
  exact perform_of_script? h.script_eq options

/-- An invocation whose settings are loaded goes on with its command. -/
theorem exec_invoke_ok (hversion : flags.version = false) (h : (settings options).exec s = (.ok config, t)) :
    (invoke ⟨flags, some (command, options)⟩).exec s = (attempt command options config).exec t := by
  have hattempt : (Action.attempt (settings options)).exec s = (.ok (.ok config), t) := by rw [exec_attempt, h]
  simp only [invoke, hversion, Bool.false_eq_true, if_false]
  exact exec_bind_ok hattempt

theorem exec_attempt_ok {status : ExitStatus} (h : (perform command options config).exec s = (.ok status, t)) :
    (attempt command options config).exec s = (.ok status, t) := by
  have hattempt : (Action.attempt (perform command options config)).exec s = (.ok (.ok status), t) := by
    rw [exec_attempt, h]
  exact exec_bind_ok hattempt

theorem Stages.run_main (h : Stages words s p flags command options config script text s₁ s₂ s₃ s₄) :
    (main words).run s = ({ outcome := ((attempt command options config).exec s₁).1, level := p.level },
      ((attempt command options config).exec s₁).2) := by
  rw [Program.run_main h.words_eq, exec_invoke_ok h.version_eq h.settings_eq, h.given_eq.1]

/-- The program ends with the status of the command. -/
theorem Stages.main_of_report (h : Stages words s p flags command options config script text s₁ s₂ s₃ s₄)
    {status : ExitStatus} (hreport : (report script config p.output).exec s₁ = (.ok status, t)) :
    (main words).run s = ({ outcome := .ok status, level := p.level }, t) := by
  rw [← h.exec_perform] at hreport
  rw [h.run_main, exec_attempt_ok hreport]

/-- A failure that leaves the command is logged and is a status too. -/
theorem Stages.main_of_report_error (h : Stages words s p flags command options config script text s₁ s₂ s₃ s₄)
    {e : Failure} (hreport : (report script config p.output).exec s₁ = (.error e, t)) :
    (main words).run s = ({ outcome := .ok .programError, level := p.level },
      { t with log := t.log ++ [⟨.error, s!"{command.name} failed: {e.message}"⟩] }) := by
  have hattempt : (Action.attempt (perform command options config)).exec s₁ = (.ok (.error e), t) := by
    rw [exec_attempt, h.exec_perform, hreport]
  have hexec : (attempt command options config).exec s₁ = (.ok .programError,
      { t with log := t.log ++ [⟨.error, s!"{command.name} failed: {e.message}"⟩] }) := exec_bind_ok hattempt
  rw [h.run_main, hexec]

/-- **Reports.** However the engine behaves, an invocation that comes to execute its script ends with an exit code
that says whether the execution raised, and else whether the threshold was reached. The report of what was counted
is written once, and nothing else, unless the execution raised with a violation pending; then nothing is. -/
theorem main_reports (h : prepared? words s = some p) :
    ∃ status t, (main words).run s = ({ outcome := .ok status, level := p.level }, t) ∧ status.code = p.exitCode ∧
      if p.violated then t.files = s.files ∧ t.output = s.output else Wrote p.report p.output s t := by
  obtain ⟨flags, command, options, config, script, text, s₁, s₂, s₃, s₄, hstages⟩ := stages_of_prepared? h
  have hkeeps := hstages.keeps
  obtain ⟨after, t, hregistry, hexecution, hperform⟩ :=
    Cover.exec_perform hstages.not_executed script.label p.sandbox p.session
  have hkept : t.files = s.files ∧ t.directory = s.directory ∧ t.output = s.output :=
    ⟨hexecution.1.trans hkeeps.1, hexecution.2.1.trans hkeeps.2.1, hexecution.2.2.trans hkeeps.2.2⟩
  have hwrite : t.canWrite p.output = true := by
    have := hstages.canWrite
    unfold Session.canWrite at *
    rw [hexecution.1, hexecution.2.1]
    exact this
  have hunits : after.units = p.units := by rw [CoverageRun.units, hregistry]; rfl
  have hreport : Report.write p.format after.source after.units = p.report := by
    rw [hunits, CoverageRun.source, hregistry]; rfl
  have hsummary : after.summary = Summary.ofUnits p.units := by rw [CoverageRun.summary, hunits]
  have hcall : p.run.execution p.sandbox p.session = p.call := rfl
  rw [hcall] at hperform
  rcases p.outcome_cases with ⟨hraised, hviolated, value, hout⟩ | ⟨hraised, hviolated, e, hout⟩ |
      ⟨hraised, hviolated, u, hout⟩
  · rw [hout] at hperform
    obtain ⟨u, hstatus, hwrote⟩ := hstages.exec_report hperform hwrite
    refine ⟨_, u, hstages.main_of_report hstatus, ?_, ?_⟩
    · rw [hsummary, Cover.gated, Prepared.exitCode, hraised]
      cases (Summary.ofUnits p.units).passed p.threshold <;> rfl
    · rw [hviolated, ← hreport]
      exact hwrote.congr hkept ⟨rfl, rfl⟩
  · rw [hout] at hperform
    obtain ⟨u, hstatus, hwrote⟩ := hstages.exec_report hperform hwrite
    refine ⟨_, u, hstages.main_of_report hstatus, ?_, ?_⟩
    · rw [Prepared.exitCode, hraised]
      rfl
    · rw [hviolated, ← hreport]
      exact hwrote.congr hkept ⟨rfl, rfl⟩
  · rw [hout] at hperform
    refine ⟨_, _, hstages.main_of_report_error (hstages.exec_report_error hperform), ?_, ?_⟩
    · rw [Prepared.exitCode, hraised]
      rfl
    · rw [hviolated]
      exact ⟨hkept.1, hkept.2.2⟩

/-- A session with a script of one call in the working directory, and an engine with one plan. -/
def scriptSession (plan : Plan) : Session where
  files := { nodes := [(["work"], .directory), (["work", "app.js"], .file (encodeUtf8 "a()".toList))] }
  directory := Path.ofString "/work"
  parser := some fun _ => .ok (syntaxValue "Program" 0 3 [])
  plans := [plan]

/-- A script that throws after its probe was called. -/
def throwing : Plan := { calls := [{ name := Probe.defaultName, argument := .int 0 }], throws := some "Error: stop" }

/-- A script that calls the probe with an id of no unit. -/
def straying : Plan := { calls := [{ name := Probe.defaultName, argument := .int 5 }] }

theorem main_reports_throwing : ∃ p, prepared? ["run", "app.js"] (scriptSession throwing) = some p ∧
    ∃ status t, (main ["run", "app.js"]).run (scriptSession throwing) = ({ outcome := .ok status, level := p.level }, t) ∧
      status.code = p.exitCode ∧ Cover.Wrote p.report p.output (scriptSession throwing) t := by
  have hsome : (prepared? ["run", "app.js"] (scriptSession throwing)).any (!·.violated) = true := by decide +kernel
  obtain ⟨p, hp, hviolated⟩ := (Option.any_eq_true _ _).1 hsome
  obtain ⟨status, t, hmain, hcode, hwrote⟩ := main_reports hp
  refine ⟨p, hp, status, t, hmain, hcode, ?_⟩
  rwa [if_neg (by simpa using hviolated)] at hwrote

/-- A script that strays is executed, and what it ran before it failed is not reported. -/
theorem main_silent_straying : ∃ p, prepared? ["run", "app.js"] (scriptSession straying) = some p ∧
    ¬ Cover.Wrote p.report p.output (scriptSession straying)
      ((main ["run", "app.js"]).run (scriptSession straying)).2 := by
  have hsome : (prepared? ["run", "app.js"] (scriptSession straying)).any (fun p => p.output == .absent) = true := by
    decide +kernel
  obtain ⟨p, hp, houtput⟩ := (Option.any_eq_true _ _).1 hsome
  refine ⟨p, hp, fun hwrote => ?_⟩
  have hsilent : ((main ["run", "app.js"]).run (scriptSession straying)).2.output = [] := by decide +kernel
  rw [beq_iff_eq.1 houtput] at hwrote
  have happend := hwrote.1
  rw [hsilent] at happend
  exact p.report_ne_nil (List.append_eq_nil_iff.1 happend.symm).2

end Program

end ScriptCoverage
