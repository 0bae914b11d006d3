import ScriptCoverage.Command.Program
import ScriptCoverage.Proofs.Run.History

/-!
# Invocations that come to execute a script

`Program.prepared?` follows an invocation of `run` or `fetch` up to the execution of its script: the reporter is
known, the script is instrumented, its sandbox is made, and a report can be written. What is left depends on the
engine alone. `Program.stages_of_prepared?` takes the way there apart, `Stages.keeps` says that nothing is
written on it.
-/

namespace ScriptCoverage

/-! ## Preparation -/

/-- An invocation that is about to execute its script. -/
structure Prepared where
  level : LogLevel
  output : Choice Path
  threshold : Binary64
  format : ReportFormat
  run : CoverageRun
  sandbox : Sandbox
  session : Session

/-- The script that a command covers, if it covers one. -/
def Command.script? (config : Config) : Command → Option Cover.ScriptSource
  | .run script => some (Cover.fileSource script)
  | .fetch address => some (Cover.addressSource address config.timeout)
  | _ => none

/-- Whether a report can be written. -/
def Session.canWrite (s : Session) : Choice Path → Bool
  | .absent => true
  | .bare => false
  | .value path => (Failure.ofOpening path (s.files.write s.directory path [])).toBool

/-- How far an invocation comes that covers a script: to its execution, if nothing fails before and the report can
be written. -/
def Program.prepared? (words : List String) (s : Session) : Option Prepared :=
  match Invocation.ofArguments words with
  | .ok ⟨flags, some (command, options)⟩ =>
    if flags.version then none
    else match (settings options).exec s with
    | (.ok config, s) => match command.script? config with
      | none => none
      | some script => match (Plugins.reporter? config.format).exec s with
        | (.ok (some format), s) => match script.load.exec s with
          | (.ok text, s) => match (instrumentSource text config.probeName).exec s with
            | (.ok run, s) => match (Plugins.sandbox? config.sandbox config.options).exec s with
              | (.ok (some sandbox), s) =>
                if s.canWrite options.output then
                  some ⟨flags.level, options.output, config.threshold, format, run, sandbox, s⟩
                else none
              | _ => none
            | _ => none
          | _ => none
        | _ => none
    | _ => none
  | _ => none

/-! ## What preparation changes -/

namespace Action

variable {α : Type} {P : Event → Prop}

/-- An action that adds to the log and the events leaves the files and the output alone. -/
theorem Adds.keeps {action : Action α} {s t : Session} {outcome : Except Failure α} (h : Adds P action)
    (hexec : action.exec s = (outcome, t)) :
    t.files = s.files ∧ t.directory = s.directory ∧ t.output = s.output := by
  obtain ⟨log, events, -, hafter⟩ := h s
  rw [hexec] at hafter
  have ht : t = _ := hafter
  rw [ht]
  exact ⟨rfl, rfl, rfl⟩

theorem adds_readText (path : Path) : Adds P (readText path) :=
  (adds_get.bind fun _ => adds_ofExcept _).bind fun _ => adds_ofExcept _

end Action

open ScriptCoverage.Action

theorem adds_fetchSource (address : String) (timeout : Value) : Adds (fun _ => True) (fetchSource address timeout) :=
  (adds_log _ _).bind fun _ => (adds_ofExcept _).bind fun _ => (adds_emit trivial).bind fun _ =>
    adds_get.bind fun _ => adds_ofExcept _

theorem adds_instrumentSource {P : Event → Prop} (source : Text) (name : String) :
    Adds P (instrumentSource source name) := by
  refine adds_get.bind fun s => ?_
  dsimp only
  split
  · exact adds_throw_bind _ _
  · refine (adds_ofExcept _).bind fun tree => (adds_ofExcept _).bind fun part => ?_
    split
    · exact (adds_pure _).bind fun root => (adds_log _ _).bind fun _ => (adds_log _ _).bind fun _ =>
        (adds_ofExcept _).bind fun run => (adds_log _ _).bind fun _ => adds_pure run
    · exact adds_throw_bind _ _

/-- A run comes from a tree. -/
theorem ofTree_of_instrumentSource {source : Text} {name : String} {s t : Session} {run : CoverageRun}
    (h : (instrumentSource source name).exec s = (.ok run, t)) : ∃ root, CoverageRun.ofTree source name root = .ok run := by
  obtain ⟨s, _, -, h⟩ := of_exec_bind_ok h
  dsimp only at h
  split at h
  · obtain ⟨_, _, hthrow, -⟩ := of_exec_bind_ok h
    cases hthrow
  · obtain ⟨_, _, -, h⟩ := of_exec_bind_ok h
    obtain ⟨_, _, -, h⟩ := of_exec_bind_ok h
    split at h
    · obtain ⟨root, _, -, h⟩ := of_exec_bind_ok h
      obtain ⟨_, _, -, h⟩ := of_exec_bind_ok h
      obtain ⟨_, _, -, h⟩ := of_exec_bind_ok h
      obtain ⟨made, _, hmade, h⟩ := of_exec_bind_ok h
      obtain ⟨_, _, -, h⟩ := of_exec_bind_ok h
      simp only [exec_pure, Prod.mk.injEq, Except.ok.injEq] at h
      rw [h.1] at hmade
      refine ⟨root, ?_⟩
      cases hr : CoverageRun.ofTree source name root with
      | error e => rw [hr] at hmade; cases hmade
      | ok r => rw [hr] at hmade; cases hmade; rfl
    · obtain ⟨_, _, hthrow, -⟩ := of_exec_bind_ok h
      cases hthrow

theorem adds_load {command : Command} {config : Config} {script : Cover.ScriptSource}
    (h : command.script? config = some script) : Adds (fun _ => True) script.load := by
  cases command with
  | run path => cases h; exact adds_readText path
  | fetch address => cases h; exact adds_fetchSource address _
  | instrument path => cases h
  | status => cases h

namespace Program

/-- An invocation that can be read is carried out. -/
theorem run_main {words : List String} {invocation : Invocation} (h : Invocation.ofArguments words = .ok invocation)
    (s : Session) : (main words).run s =
      ({ outcome := ((invoke invocation).exec s).1, level := invocation.flags.level }, ((invoke invocation).exec s).2) := by
  simp only [main, h]
  rfl

theorem adds_settings {P : Event → Prop} (options : CommandOptions) : Adds P (settings options) :=
  adds_get.bind fun _ => (adds_ofLogged _).bind fun _ => adds_ofExcept _

/-- The stages of an invocation before it executes its script, with the sessions between them. -/
structure Stages (words : List String) (s : Session) (p : Prepared) (flags : ProgramFlags) (command : Command)
    (options : CommandOptions) (config : Config) (script : Cover.ScriptSource) (text : Text)
    (s₁ s₂ s₃ s₄ : Session) : Prop where
  words_eq : Invocation.ofArguments words = .ok ⟨flags, some (command, options)⟩
  version_eq : flags.version = false
  settings_eq : (settings options).exec s = (.ok config, s₁)
  script_eq : command.script? config = some script
  format_eq : (Plugins.reporter? config.format).exec s₁ = (.ok (some p.format), s₂)
  text_eq : script.load.exec s₂ = (.ok text, s₃)
  run_eq : (instrumentSource text config.probeName).exec s₃ = (.ok p.run, s₄)
  sandbox_eq : (Plugins.sandbox? config.sandbox config.options).exec s₄ = (.ok (some p.sandbox), p.session)
  canWrite : p.session.canWrite p.output = true
  given_eq : p.level = flags.level ∧ p.output = options.output ∧ p.threshold = config.threshold

theorem stages_of_prepared? {words : List String} {s : Session} {p : Prepared} (h : prepared? words s = some p) :
    ∃ flags command options config script text s₁ s₂ s₃ s₄,
      Stages words s p flags command options config script text s₁ s₂ s₃ s₄ := by
  unfold prepared? at h
  split at h
  case h_2 => cases h
  case h_1 flags command options hwords =>
  split at h
  case isTrue => cases h
  case isFalse hversion =>
  split at h
  case h_2 => cases h
  case h_1 config s₁ hsettings =>
  split at h
  case h_1 => cases h
  case h_2 script hscript =>
  split at h
  case h_2 => cases h
  case h_1 format s₂ hformat =>
  split at h
  case h_2 => cases h
  case h_1 text s₃ htext =>
  split at h
  case h_2 => cases h
  case h_1 run s₄ hrun =>
  split at h
  case h_2 => cases h
  case h_1 sandbox s₅ hsandbox =>
  split at h
  case isFalse => cases h
  case isTrue hwrite =>
  cases h
  exact ⟨flags, command, options, config, script, text, s₁, s₂, s₃, s₄, hwords, by simpa using hversion, hsettings,
    hscript, hformat, htext, hrun, hsandbox, hwrite, rfl, rfl, rfl⟩

variable {words : List String} {s s₁ s₂ s₃ s₄ : Session} {p : Prepared} {flags : ProgramFlags} {command : Command}
  {options : CommandOptions} {config : Config} {script : Cover.ScriptSource} {text : Text}

/-- Nothing is written before the script is executed. -/
theorem Stages.keeps (h : Stages words s p flags command options config script text s₁ s₂ s₃ s₄) :
    p.session.files = s.files ∧ p.session.directory = s.directory ∧ p.session.output = s.output := by
  obtain ⟨f₁, d₁, o₁⟩ := (adds_settings (P := fun _ => True) options).keeps h.settings_eq
  obtain ⟨f₂, d₂, o₂⟩ := (Plugins.adds_reporter? (P := fun _ => True) config.format).keeps h.format_eq
  obtain ⟨f₃, d₃, o₃⟩ := (adds_load h.script_eq).keeps h.text_eq
  obtain ⟨f₄, d₄, o₄⟩ := (adds_instrumentSource (P := fun _ => True) text config.probeName).keeps h.run_eq
  obtain ⟨f₅, d₅, o₅⟩ := (Plugins.adds_sandbox? (P := fun _ => True) (fun _ _ => trivial) config.sandbox).keeps
    h.sandbox_eq
  exact ⟨by rw [f₅, f₄, f₃, f₂, f₁], by rw [d₅, d₄, d₃, d₂, d₁], by rw [o₅, o₄, o₃, o₂, o₁]⟩

theorem Stages.not_executed (h : Stages words s p flags command options config script text s₁ s₂ s₃ s₄) :
    p.run.executed = false := by
  obtain ⟨root, hroot⟩ := ofTree_of_instrumentSource h.run_eq
  exact (CoverageRun.ofTree_eq_ok hroot).2

end Program

end ScriptCoverage
