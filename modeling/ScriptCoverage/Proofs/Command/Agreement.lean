import ScriptCoverage.Proofs.Command.Reporting
import ScriptCoverage.Proofs.Run.Agree
import ScriptCoverage.Proofs.Run.Retrieval
import ScriptCoverage.Proofs.Text.Lines

/-!
# Covering a script from two sources

The commands that cover a script differ in how they obtain its text and in how they call it. The name of a script goes
to the log only (`agree_coverText`), so two sources are covered alike if they lead to one text (`agreeAt_report`), and
then invocations that differ in nothing but their sources agree too (`agreeAt_invoke`). What the two kinds of source
make of bytes is said by `exec_readText` and `exec_fetchSource`.
-/

namespace ScriptCoverage

open ScriptCoverage.Action

/-! ## Loading a script -/

/-- The text of a file has its line ends written as line feeds. -/
theorem Action.exec_readText {s : Session} {path : Path} {bytes : List UInt8} {text : Text}
    (hread : Failure.ofOpening path (s.files.read s.directory path) = .ok bytes) (htext : decodeUtf8 bytes = .ok text) :
    ((readText path).exec s).1 = .ok text.unifyLineEnds := by
  have hbytes : (readBytes path).exec s = (.ok bytes, s) := by
    simp only [readBytes, exec_bind, exec_get, exec_ofExcept, hread]
  unfold readText
  rw [exec_bind_ok hbytes, exec_ofExcept, ScriptCoverage.readText, htext]
  rfl

/-- The response with the status 200, no declared charset and some bytes. -/
def Response.success (bytes : List UInt8) : Response := { status := .code 200, body := .ok bytes }

theorem Response.script_success {address : String} {bytes : List UInt8} {text : Text}
    (htext : decodeUtf8 bytes = .ok text) : (success bytes).script address = .ok text := by
  have hname : Charset.ofName? "utf-8" = some .utf8 := by decide +kernel
  have hscript : (success bytes).script address = decodeBody address 200 "utf-8" bytes := by
    rw [script_read (r := success bytes) rfl (by decide)]
    simp only [success, Except.mapError, bind, Except.bind]
    rfl
  rw [hscript, decodeBody, if_neg (by decide +kernel), hname]
  cases bytes with
  | nil => cases htext; rfl
  | cons b rest =>
    rw [if_neg (by simp)]
    simp only [Charset.decode, htext]
    rfl

/-- The text of a response is the text of its bytes. -/
theorem exec_fetchSource {s : Session} {address url : String} {bytes : List UInt8} {text : Text}
    (hurl : Address.resolve address = .ok url) (hresponse : s.network url = .ok (.success bytes))
    (htext : decodeUtf8 bytes = .ok text) (timeout : Value) : ((fetchSource address timeout).exec s).1 = .ok text := by
  rw [exec_fetchSource_opened hurl, hresponse]
  change ((Response.success bytes).script address).mapError Failure.ofFetch = .ok text
  rw [Response.script_success htext]
  rfl

namespace Cover

variable {α β : Type} {s t : Session}

theorem agreeAt_run_bind {x y : ExceptT ExitStatus Action α} {f g : α → ExceptT ExitStatus Action β}
    (h : AgreeAt s t x.run y.run) (hnext : ∀ a, Agree (f a).run (g a).run) :
    AgreeAt s t (x >>= f).run (y >>= g).run := by
  rw [ExceptT.run_bind, ExceptT.run_bind]
  refine h.bind fun result u v _ _ huv => ?_
  cases result with
  | error status => exact agree_pure _ huv
  | ok a => exact hnext a huv

theorem agreeAt_run_lift_bind {P : Event → Prop} {x : Action α} {f g : α → ExceptT ExitStatus Action β}
    (h : Adds P x) (hnext : ∀ a u, u.quiet = s.quiet → AgreeAt u u (f a).run (g a).run) :
    AgreeAt s s (liftM x >>= f).run (liftM x >>= g).run := by
  have hrun (k : α → ExceptT ExitStatus Action β) : (liftM x >>= k).run = x >>= fun a => (k a).run :=
    ExceptT.run_bind_lift x k
  rw [hrun, hrun]
  exact h.agreeAt_bind hnext

theorem agree_run_bind {x y : ExceptT ExitStatus Action α} {f g : α → ExceptT ExitStatus Action β}
    (h : Agree x.run y.run) (hnext : ∀ a, Agree (f a).run (g a).run) : Agree (x >>= f).run (y >>= g).run :=
  fun _ _ hst => agreeAt_run_bind (h hst) hnext

theorem agree_run_lift {x y : Action α} (h : Agree x y) :
    Agree (liftM x : ExceptT ExitStatus Action α).run (liftM y : ExceptT ExitStatus Action α).run :=
  h.bind fun _ => agree_pure _

theorem agree_run_pure (a : α) :
    Agree (pure a : ExceptT ExitStatus Action α).run (pure a : ExceptT ExitStatus Action α).run := agree_pure _

theorem agree_refuse (status : ExitStatus) (message message' : String) :
    Agree (refuse status message : ExceptT ExitStatus Action α).run (refuse status message').run :=
  agree_run_bind (agree_run_lift (agree_log _ _ _ _)) fun _ => agree_pure _

theorem agree_run_throwThe (e : Failure) : Agree (throwThe Failure e : ExceptT ExitStatus Action α).run
    (throwThe Failure e : ExceptT ExitStatus Action α).run := agree_throw e

theorem agree_prepare (label label' : String) (text : Text) (name : String) :
    Agree (prepare label text name).run (prepare label' text name).run := by
  refine agree_run_bind (agree_run_lift (agree_instrumentSource text name).attempt) fun result => ?_
  split
  · exact agree_run_pure _
  · exact agree_refuse _ _ _
  · exact agree_refuse _ _ _

theorem agree_chooseSandbox (config : Config) : Agree (chooseSandbox config).run (chooseSandbox config).run := by
  refine agree_run_bind (agree_run_lift (Plugins.agree_sandbox? _ _).attempt) fun result => ?_
  split
  · exact agree_run_pure _
  · exact agree_run_bind (agree_run_lift (agree_ofExcept _)) fun _ => agree_refuse _ _ _
  · exact agree_refuse _ _ _
  · exact agree_run_throwThe _

theorem agree_perform (label label' : String) (run : CoverageRun) (sandbox : Sandbox) :
    Agree (perform label run sandbox) (perform label' run sandbox) := by
  refine (run.agree_execute sandbox).bind fun result => ?_
  split
  · exact agree_pure _
  · exact (agree_log _ _ _ _).bind fun _ => agree_pure _
  · exact agree_throw _

theorem agree_writeReport (format : ReportFormat) (run : CoverageRun) (output : Choice Path) :
    Agree (writeReport format run output) (writeReport format run output) := by
  cases output with
  | absent => exact agree_print _
  | bare => exact agree_throw _
  | value path => exact (agree_writeText _ _).bind fun _ => agree_log _ _ _ _

theorem agree_gate (status : ExitStatus) (summary : Summary) (threshold : Binary64) :
    Agree (gate status summary threshold) (gate status summary threshold) := by
  unfold gate
  exact Agree.ite ((agree_log _ _ _ _).bind fun _ => agree_pure _) (agree_pure _)

/-- What `coverSource` does with the text of a script. -/
def coverText (label : String) (format : ReportFormat) (text : Text) (config : Config) (output : Choice Path) :
    ExceptT ExitStatus Action ExitStatus := do
  let run ← prepare label text config.probeName
  let sandbox ← chooseSandbox config
  let (status, run) ← perform label run sandbox
  writeReport format run output
  let summary := run.summary
  Action.log .info s!"{label}: {summary.executed}/{summary.total} units executed"
  gate status summary config.threshold

theorem coverSource_eq (script : ScriptSource) (config : Config) (output : Choice Path) :
    coverSource script config output = (do
      let some format ← Plugins.reporter? config.format
        | refuse .invalidUsage s!"Unknown output format '{← shown config.format}'"
      let text ← obtain script
      coverText script.label format text config output) := rfl

/-- The label of a script goes to the log only. -/
theorem agree_coverText (label label' : String) (format : ReportFormat) (text : Text) (config : Config)
    (output : Choice Path) :
    Agree (coverText label format text config output).run (coverText label' format text config output).run := by
  refine agree_run_bind (agree_prepare label label' text _) fun run => ?_
  refine agree_run_bind (agree_chooseSandbox config) fun sandbox => ?_
  refine agree_run_bind (agree_run_lift (agree_perform label label' run sandbox)) fun ⟨status, run⟩ => ?_
  refine agree_run_bind (agree_run_lift (agree_writeReport format run output)) fun _ => ?_
  refine agree_run_bind (agree_run_lift (agree_log _ _ _ _)) fun _ => ?_
  exact agree_run_lift (agree_gate status run.summary config.threshold)

theorem agreeAt_obtain {script script' : ScriptSource} {text : Text} (htext : (script.load.exec s).1 = .ok text)
    (htext' : (script'.load.exec t).1 = .ok text)
    (hquiet : (script.load.exec s).2.quiet = (script'.load.exec t).2.quiet) :
    AgreeAt s t (obtain script).run (obtain script').run := by
  have hexec := exec_obtain (Prod.ext htext rfl)
  have hexec' := exec_obtain (Prod.ext htext' rfl)
  exact ⟨by rw [hexec, hexec'], by rw [hexec, hexec']; exact hquiet⟩

/-- Two sources that lead to one text are covered alike. -/
theorem agreeAt_report {script script' : ScriptSource} (config : Config) (output : Choice Path) (text : Text)
    (hadds : Adds (fun _ => True) script.load) (hadds' : Adds (fun _ => True) script'.load)
    (hload : ∀ u : Session, u.quiet = s.quiet → (script.load.exec u).1 = .ok text)
    (hload' : ∀ u : Session, u.quiet = s.quiet → (script'.load.exec u).1 = .ok text) :
    AgreeAt s s (report script config output) (report script' config output) := by
  have hcover : AgreeAt s s (coverSource script config output).run (coverSource script' config output).run := by
    rw [coverSource_eq, coverSource_eq]
    refine agreeAt_run_lift_bind (Plugins.adds_reporter? (P := fun _ => True) config.format) fun format u hu => ?_
    cases format with
    | none => exact .refl u _
    | some format =>
      refine agreeAt_run_bind (agreeAt_obtain (hload u hu) (hload' u hu) ?_) fun text => ?_
      · rw [hadds.quiet_eq, hadds'.quiet_eq]
      · exact agree_coverText script.label script'.label format text config output
  refine hcover.bind fun result u v _ _ huv => ?_
  cases result with
  | ok status => exact agree_pure _ huv
  | error status => exact agree_pure _ huv

end Cover

namespace Program

/-- Invocations agree if their commands do, from wherever the settings lead to. -/
theorem agreeAt_invoke {s : Session} {command command' : Command} (flags : ProgramFlags) (options : CommandOptions)
    (h : ∀ config u, u.quiet = s.quiet →
      AgreeAt u u (perform command options config) (perform command' options config)) :
    AgreeAt s s (invoke ⟨flags, some (command, options)⟩) (invoke ⟨flags, some (command', options)⟩) := by
  unfold invoke
  dsimp only
  split
  · exact .refl s _
  · refine (adds_settings (P := fun _ => True) options).attempt.agreeAt_bind fun result u hu => ?_
    split
    · refine (h _ u hu).attempt.bind fun result v v' _ _ hv => ?_
      cases result with
      | ok status => exact agree_pure _ hv
      | error e => exact ((agree_log _ _ _ _).bind fun _ => agree_pure _) hv
    · exact .refl u _
    · exact .refl u _

end Program

end ScriptCoverage
