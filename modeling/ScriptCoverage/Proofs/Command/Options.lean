import ScriptCoverage.Proofs.Command.Reporting
import ScriptCoverage.Proofs.Config.Setting
import ScriptCoverage.Proofs.Run.Agree
import ScriptCoverage.Proofs.Run.Construction
import ScriptCoverage.Yaml.Library

/-!
# What a command makes of the options for a sandbox

The entries of the section `execution` other than the name of the sandbox are its options. A command that has come to an
instrumented script makes the sandbox of the name with exactly these options, whatever its class does with them, unless
one of them has a name that the choice takes itself. Then the class is not called, and the command fails
(`options_passed_iff`).
-/

namespace ScriptCoverage.Cover

open ScriptCoverage.Action ScriptCoverage.Plugins

variable {α β : Type} {s t u : Session} {script : ScriptSource} {config : Config} {output : Choice Path}
  {format : ReportFormat} {run : CoverageRun} {construct : Construction} {className engine : String}

/-! ## Commands with classes from elsewhere -/

/-- The sandbox that a choice comes to. -/
def chooseFrom (config : Config) (choice : Action (Option Sandbox)) : ExceptT ExitStatus Action Sandbox := do
  match ← Action.attempt choice with
  | .ok (some made) => return made
  | .ok none => refuse .invalidUsage s!"Unknown sandbox '{← shown config.sandbox}'"
  | .error (.missing dependency) => refuse .missingDependency dependency.message
  | .error e => throwThe Failure e

/-- What `coverSource` does with an instrumented script, in the sandbox that a choice comes to. -/
def coverRun (label : String) (format : ReportFormat) (run : CoverageRun) (config : Config) (output : Choice Path)
    (choice : Action (Option Sandbox)) : ExceptT ExitStatus Action ExitStatus := do
  let sandbox ← chooseFrom config choice
  let (status, run) ← perform label run sandbox
  writeReport format run output
  let summary := run.summary
  Action.log .info s!"{label}: {summary.executed}/{summary.total} units executed"
  gate status summary config.threshold

/-- The commands `run` and `fetch`, with a way of calling the classes of sandboxes. -/
def reportBy (construct : Construction) (script : ScriptSource) (config : Config) (output : Choice Path) :
    Action ExitStatus :=
  settle do
    let some format ← Plugins.reporter? config.format
      | refuse .invalidUsage s!"Unknown output format '{← shown config.format}'"
    let text ← obtain script
    let run ← prepare script.label text config.probeName
    coverRun script.label format run config output (sandboxBy? construct config.sandbox config.options)

/-- What is left of a command with an instrumented script, where its sandbox is made by an action. -/
def reportMade (label : String) (format : ReportFormat) (run : CoverageRun) (config : Config) (output : Choice Path)
    (made : Action Sandbox) : Action ExitStatus :=
  settle (coverRun label format run config output (some <$> made))

/-- The commands call the program's own classes. -/
theorem reportBy_makeSandbox (script : ScriptSource) (config : Config) (output : Choice Path) :
    reportBy (fun _ => makeSandbox) script config output = report script config output := by
  rw [reportBy, sandboxBy?_makeSandbox]
  rfl

/-! ## From the choice to the end -/

/-- What follows an action depends on what the action comes to, not on where it began. -/
theorem exec_run_bind_congr {x y : ExceptT ExitStatus Action α} {f : α → ExceptT ExitStatus Action β}
    (h : x.run.exec s = y.run.exec t) : (x >>= f).run.exec s = (y >>= f).run.exec t := by
  rw [ExceptT.run_bind, ExceptT.run_bind, exec_bind, exec_bind, h]

theorem exec_chooseFrom_congr {choice choice' : Action (Option Sandbox)} (h : choice.exec s = choice'.exec t) :
    (chooseFrom config choice).run.exec s = (chooseFrom config choice').run.exec t := by
  have hattempt : (attempt choice).exec s = (attempt choice').exec t := by rw [exec_attempt, exec_attempt, h]
  refine exec_run_bind_congr ?_
  exact (exec_run_lift hattempt).trans (exec_run_lift (exec_attempt choice' t)).symm

theorem exec_coverRun_congr {label : String} {choice choice' : Action (Option Sandbox)}
    (h : choice.exec s = choice'.exec t) :
    (coverRun label format run config output choice).run.exec s =
      (coverRun label format run config output choice').run.exec t :=
  exec_run_bind_congr (exec_chooseFrom_congr h)

/-- A sandbox that cannot be made is the end of a command, unless it is a dependency that is missing. -/
theorem exec_coverRun_error {label : String} {choice : Action (Option Sandbox)} {f : Fault}
    (h : choice.exec s = (.error (.fault f), t)) :
    (coverRun label format run config output choice).run.exec s = (.error (.fault f), t) :=
  exec_run_bind_error (exec_run_bind (exec_run_attempt_error h))

/-- A command that comes to an instrumented script, and knows how to report it. -/
inductive Reached (script : ScriptSource) (config : Config) (s : Session) (format : ReportFormat) (run : CoverageRun)
    (t : Session) : Prop where
  | stages (text : Text) (u v : Session) (format_eq : (Plugins.reporter? config.format).exec s = (.ok (some format), u))
    (text_eq : script.load.exec u = (.ok text, v))
    (run_eq : (instrumentSource text config.probeName).exec v = (.ok run, t))

theorem Reached.exec_reportBy (h : Reached script config s format run t) (construct : Construction) :
    (reportBy construct script config output).exec s = (settle (coverRun script.label format run config output
      (sandboxBy? construct config.sandbox config.options))).exec t := by
  obtain ⟨text, u, v, hformat, htext, hrun⟩ := h
  rw [reportBy, settle, settle, exec_bind, exec_bind, exec_run_bind (exec_run_lift hformat)]
  dsimp only
  rw [exec_run_bind (exec_obtain htext), exec_run_bind (exec_prepare hrun)]

/-- On the way to an instrumented script nothing happens that decides which sandboxes there are. -/
theorem Reached.offers (h : Reached script config s format run t) (hadds : Adds (fun _ => True) script.load)
    {name : Value} (hoffers : Offers s name className engine) : Offers t name className engine := by
  obtain ⟨text, u, v, hformat, htext, hrun⟩ := h
  have hu := (adds_reporter? (P := fun _ => True) config.format).quiet_eq s
  have hv := hadds.quiet_eq u
  have ht := (adds_instrumentSource (P := fun _ => True) text config.probeName).quiet_eq v
  rw [hformat] at hu
  rw [htext] at hv
  rw [hrun] at ht
  obtain ⟨plugins, hplugins, hnamed⟩ := hoffers
  refine ⟨plugins, ?_, hnamed⟩
  rw [← hplugins]
  exact (agree_discover _ _ _ (ht.trans (hv.trans hu))).outcome

/-- The sandbox is made with the options of the settings. -/
theorem Reached.exec_reportBy_of_passable (h : Reached script config s format run t)
    (hkeys : ∀ option ∈ config.options, ∃ key, option.1 = .text key) (hpassable : Passable config.options)
    (hoffers : Offers t config.sandbox className engine) (construct : Construction) :
    ∃ log, (reportBy construct script config output).exec s =
      (reportMade script.label format run config output (construct className engine config.options)).exec
        { t with log := t.log ++ log } := by
  obtain ⟨log, hchoice⟩ : ∃ log, (sandboxBy? construct config.sandbox config.options).exec t = _ :=
    exec_sandboxBy? hkeys hpassable hoffers
  refine ⟨log, ?_⟩
  rw [h.exec_reportBy, reportMade, settle, settle, exec_bind, exec_bind, exec_coverRun_congr hchoice]

/-- An option of a taken name is the end, before any class is called. -/
theorem Reached.exec_reportBy_of_taken (h : Reached script config s format run t)
    (hkeys : ∀ option ∈ config.options, ∃ key, option.1 = .text key) (htaken : ¬ Passable config.options)
    (construct : Construction) :
    (reportBy construct script config output).exec s = (.error (.fault .wrongType), t) := by
  rw [h.exec_reportBy]
  exact exec_bind_error (exec_coverRun_error (exec_sandboxBy?_taken hkeys htaken))

end ScriptCoverage.Cover

namespace ScriptCoverage.Program

open ScriptCoverage.Action ScriptCoverage.Plugins

variable {s t : Session} {command : Command} {options : CommandOptions} {config : Config} {data entries : Mapping Value}
  {script : Cover.ScriptSource} {format : ReportFormat} {run : CoverageRun} {className engine : String}

/-- The options are the entries of their section but the name of the sandbox. -/
theorem options_of_section (hconfig : Config.ofMapping data = .ok config)
    (hsection : data.get? "execution" = some (.mapping entries))
    (hkeys : ∀ entry ∈ entries, ∃ key, entry.1 = .text key) :
    config.options = entries.filter fun entry => entry.1 ≠ .text "sandbox" := by
  have hread := (Config.ofMapping_eq_ok.1 hconfig).options
  rw [sectionOf, hsection] at hread
  rw [hread]
  refine List.filter_congr fun entry hentry => ?_
  obtain ⟨key, value⟩ := entry
  obtain ⟨name, rfl⟩ := hkeys _ hentry
  rfl

theorem get?_options {name : String} (hconfig : Config.ofMapping data = .ok config)
    (hsection : data.get? "execution" = some (.mapping entries)) (hname : name ≠ "sandbox") :
    config.options.get? name = entries.get? name := by
  have hread := (Config.ofMapping_eq_ok.1 hconfig).options
  have hne : ¬ (Scalar.text name).key = .text "sandbox" := fun h => hname (Scalar.text.inj h)
  rw [sectionOf, hsection] at hread
  rw [hread, Mapping.get?, Mapping.find?_without, if_neg hne, Mapping.get?]

theorem passable_options_iff (hconfig : Config.ofMapping data = .ok config)
    (hsection : data.get? "execution" = some (.mapping entries)) : Passable config.options ↔ Passable entries := by
  refine forall₂_congr fun name hname => ?_
  rw [get?_options hconfig hsection]
  rintro rfl
  exact absurd hname (by decide)

/-- The program's own class takes any options but one. -/
theorem makeSandbox_wrongType_iff (engine : String) (options : Mapping Value) (s : Session) :
    ((makeSandbox engine options).exec s).1 = .error (.fault .wrongType) ↔ (options.get? "self").isSome = true := by
  unfold makeSandbox
  by_cases hself : (options.get? "self").isSome = true
  · rw [if_pos hself]
    exact iff_of_true rfl hself
  · rw [if_neg hself]
    refine iff_of_false ?_ hself
    dsimp only
    rw [exec_bind_ok (exec_get s)]
    intro h
    cases hengine : s.engineInstalled with
    | false => simp [hengine] at h
    | true =>
      simp only [hengine, Bool.not_true, Bool.false_eq_true, if_false] at h
      split at h <;> cases h

/-- **Options.** The options are the entries of the section `execution` but the name of the sandbox. A command that has
come to an instrumented script makes the sandbox of the name by calling its class with exactly these options, whatever
the class does with them, if and only if none of them has a name that the choice of a sandbox takes itself. If one has,
the command fails there, and no class is called. The program's own class refuses one more name, that of its instance. -/
theorem options_passed_iff (hconfig : Config.ofMapping data = .ok config)
    (hsection : data.get? "execution" = some (.mapping entries))
    (hkeys : ∀ entry ∈ entries, ∃ key, entry.1 = .text key) (hscript : command.script? config = some script)
    (hreached : Cover.Reached script config s format run t) (hoffers : Offers s config.sandbox className engine) :
    config.options = entries.filter (fun entry => entry.1 ≠ .text "sandbox") ∧
    perform command options config = Cover.reportBy (fun _ => makeSandbox) script config options.output ∧
    ((∀ construct, ∃ log, (Cover.reportBy construct script config options.output).exec s =
        (Cover.reportMade script.label format run config options.output
          (construct className engine config.options)).exec { t with log := t.log ++ log }) ↔
      ∀ name ∈ choiceNames, entries.get? name = none) ∧
    ((∃ name ∈ choiceNames, (entries.get? name).isSome = true) → ∀ construct,
      (Cover.reportBy construct script config options.output).exec s = (.error (.fault .wrongType), t)) ∧
    ∀ u, ((makeSandbox engine config.options).exec u).1 = .error (.fault .wrongType) ↔
      (entries.get? "self").isSome = true := by
  have hoptions := options_of_section hconfig hsection hkeys
  have hpassable := passable_options_iff hconfig hsection
  have hkeys' : ∀ option ∈ config.options, ∃ key, option.1 = .text key := fun option hoption =>
    hkeys option (List.mem_of_mem_filter (hoptions ▸ hoption))
  have hoffers' := hreached.offers (adds_load hscript) hoffers
  have htaken (h : ¬ Passable entries) (construct : Construction) :
      (Cover.reportBy construct script config options.output).exec s = (.error (.fault .wrongType), t) :=
    hreached.exec_reportBy_of_taken hkeys' (fun hpass => h (hpassable.1 hpass)) construct
  refine ⟨hoptions, ?_, ⟨fun hpassed => ?_, fun h => ?_⟩, ?_, fun u => ?_⟩
  · rw [Cover.reportBy_makeSandbox, perform_of_script? hscript]
  · -- a class with an error of its own tells the two ways of failing apart
    by_contra h
    obtain ⟨log, hown⟩ := hpassed fun _ _ _ => throw (.fault .missingAttribute)
    rw [htaken h] at hown
    cases hown
  · exact hreached.exec_reportBy_of_passable hkeys' (hpassable.2 h) hoffers'
  · rintro ⟨name, hname, hsome⟩
    refine htaken fun h => ?_
    rw [h name hname] at hsome
    cases hsome
  · rw [makeSandbox_wrongType_iff, get?_options hconfig hsection (by decide)]

/-- A script that calls the probe of its only unit. -/
def counting : Plan := { calls := [{ name := Probe.defaultName, argument := .int 0 }] }

/-- A section with options before and after the name of the sandbox. -/
def shapedSection : Mapping Value :=
  [(.text "shape", .text "round"), (.text "sandbox", .text "quickjs"), (.text "memory_limit", .int 64)]

def shapedConfig : Config where
  options := [(.text "shape", .text "round"), (.text "memory_limit", .int 64)]

theorem reached_shaped : ∃ run t, Cover.Reached (Cover.fileSource (.ofString "app.js")) shapedConfig
    (scriptSession counting) .text run t := by
  have hformat : ((reporter? shapedConfig.format).exec (scriptSession counting)).1 = .ok (some .text) := rfl
  obtain ⟨u, hu, hformat⟩ := (adds_reporter? (P := fun _ => True) _).exists_exec hformat
  have htext : ((Action.readText (.ofString "app.js")).exec u).1 = .ok "a()".toList := by
    rw [Session.eq_of_quiet_eq hu.symm]
    rfl
  obtain ⟨v, hv, htext⟩ := (adds_readText (P := fun _ => True) _).exists_exec htext
  have hparsed : ((instrumentSource "a()".toList shapedConfig.probeName).exec
      (scriptSession counting)).1.toOption.isSome = true := by decide +kernel
  obtain ⟨run, hrun⟩ : ∃ run, ((instrumentSource "a()".toList shapedConfig.probeName).exec v).1 = .ok run := by
    rw [((agree_instrumentSource _ _) (hv.trans hu)).outcome]
    cases hmade : ((instrumentSource "a()".toList shapedConfig.probeName).exec (scriptSession counting)).1 with
    | error e => rw [hmade] at hparsed; cases hparsed
    | ok run => exact ⟨run, rfl⟩
  exact ⟨run, _, _, u, v, hformat, htext, Prod.ext hrun rfl⟩

/-- Options with other names reach the class. -/
theorem options_passed_iff_shaped :
    Config.ofMapping [(.text "execution", .mapping shapedSection)] = .ok shapedConfig ∧
    Offers (scriptSession counting) shapedConfig.sandbox "QuickJSSandbox" "quickjs" ∧
    ∃ run t, Cover.Reached (Cover.fileSource (.ofString "app.js")) shapedConfig (scriptSession counting) .text run t ∧
      ∀ construct, ∃ log,
        (Cover.reportBy construct (Cover.fileSource (.ofString "app.js")) shapedConfig .absent).exec
          (scriptSession counting) = (Cover.reportMade "app.js" .text run shapedConfig .absent
            (construct "QuickJSSandbox" "quickjs" [(.text "shape", .text "round"),
              (.text "memory_limit", .int 64)])).exec { t with log := t.log ++ log } := by
  have htimeout : (((sectionOf [(.text "execution", .mapping shapedSection)] "fetch").get? "timeout").getD
      (.float (Binary64.ofInt 30))).toFloat = .ok shapedConfig.timeout := by
    have hfloat (x : Binary64) : (Value.float x).toFloat = .ok x := rfl
    simp only [shapedConfig]
    exact hfloat _
  have hconfig : Config.ofMapping [(.text "execution", .mapping shapedSection)] = .ok shapedConfig :=
    Config.ofMapping_eq_ok.2 ⟨rfl, rfl, rfl, rfl, rfl, htimeout, rfl⟩
  have hkeys : ∀ entry ∈ shapedSection, ∃ key, entry.1 = .text key := by simp [shapedSection]
  have hoffers : Offers (scriptSession counting) shapedConfig.sandbox "QuickJSSandbox" "quickjs" := ⟨_, rfl, rfl⟩
  obtain ⟨run, t, hreached⟩ := reached_shaped
  obtain ⟨-, -, hpassed, -⟩ : _ ∧ perform (.run (.ofString "app.js")) {} shapedConfig = _ ∧ _ :=
    options_passed_iff hconfig rfl hkeys rfl hreached hoffers
  exact ⟨hconfig, hoffers, run, t, hreached, hpassed.2 (by decide)⟩

/-- A script beside a settings file with one option. -/
def optionSession (name : String) : Session :=
  let settings := encodeUtf8 s!"execution:\n  {name}: 1\n".toList
  { scriptSession counting with
    yaml := Yaml.library
    files := { nodes := (scriptSession counting).files.nodes ++ [(["work", ".tailwindcov.yml"], .file settings)] } }

/-- Of two options that the sandbox would not look at, one is passed on and the script is executed, and the other one
is the end of the command. -/
theorem not_options_passed :
    (((main ["run", "app.js"]).run (optionSession "groups")).1.outcome.toOption.map ExitStatus.code = some 0 ∧
      ((main ["run", "app.js"]).run (optionSession "groups")).2.plans = []) ∧
    (((main ["run", "app.js"]).run (optionSession "group")).1.outcome.toOption.map ExitStatus.code = some 2 ∧
      ((main ["run", "app.js"]).run (optionSession "group")).2.events = []) := by
  decide +kernel

end ScriptCoverage.Program
