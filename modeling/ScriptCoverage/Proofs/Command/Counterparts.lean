import ScriptCoverage.Proofs.Command.Agreement
import ScriptCoverage.Proofs.Command.Obstacle

/-!
# The commands `run` and `fetch`

The same script may be covered from a file and from an address. The two commands agree whenever they come to one
text (`Counterparts.alike`), but they do not read bytes alike: a file is read with its line ends as line feeds, the
body of a response as it is. So they agree on the same bytes, whatever else a session holds, exactly if there is no
carriage return in them (`alike_iff`). That a parser can tell the two texts apart is shown with a session in which
it refuses one of them (`divided`).
-/

namespace ScriptCoverage

open ScriptCoverage.Action

namespace Program

/-- An invocation that covers a file of some bytes, and one that covers what an address is answered with. In
everything else they are the same. -/
def Counterparts (s : Session) (stored sent : List UInt8) (runWords fetchWords : List String) : Prop :=
  ∃ flags options path address url,
    Invocation.ofArguments runWords = .ok ⟨flags, some (.run path, options)⟩ ∧
    Invocation.ofArguments fetchWords = .ok ⟨flags, some (.fetch address, options)⟩ ∧
    Failure.ofOpening path (s.files.read s.directory path) = .ok stored ∧
    Address.resolve address = .ok url ∧ s.network url = .ok (.success sent)

/-- Two invocations that end alike and write the same to the standard output and to files. -/
structure Alike (s : Session) (words words' : List String) : Prop where
  ending : ((main words).run s).1 = ((main words').run s).1
  output : ((main words).run s).2.output = ((main words').run s).2.output
  files : ((main words).run s).2.files = ((main words').run s).2.files

variable {s : Session} {stored sent bytes : List UInt8} {text : Text} {runWords fetchWords : List String}

/-- Counterparts come to one text if the answer is the file with its line ends as line feeds. -/
theorem Counterparts.alike (h : Counterparts s stored sent runWords fetchWords) (hstored : decodeUtf8 stored = .ok text)
    (hsent : decodeUtf8 sent = .ok text.unifyLineEnds) : Alike s runWords fetchWords := by
  obtain ⟨flags, options, path, address, url, hrun, hfetch, hread, hurl, hresponse⟩ := h
  have hagree : AgreeAt s s (invoke ⟨flags, some (.run path, options)⟩)
      (invoke ⟨flags, some (.fetch address, options)⟩) := by
    refine agreeAt_invoke flags options fun config u hu => ?_
    refine Cover.agreeAt_report config options.output text.unifyLineEnds (adds_readText path)
      (adds_fetchSource address _) (fun v hv => ?_) fun v hv => ?_
    · have hfiles : v.files = s.files := congrArg (·.files) (hv.trans hu)
      have hdirectory : v.directory = s.directory := congrArg (·.directory) (hv.trans hu)
      rw [← hfiles, ← hdirectory] at hread
      exact exec_readText hread hstored
    · have hnetwork : v.network = s.network := congrArg (·.network) (hv.trans hu)
      rw [← hnetwork] at hresponse
      exact exec_fetchSource hurl hresponse hsent _
  refine ⟨?_, ?_, ?_⟩
  · rw [run_main hrun, run_main hfetch]
    exact congrArg (fun outcome => ({ outcome, level := flags.level } : Ending)) hagree.outcome
  · rw [run_main hrun, run_main hfetch]
    exact congrArg (·.output) hagree.quiet
  · rw [run_main hrun, run_main hfetch]
    exact congrArg (·.files) hagree.quiet

end Program

/-! ## A parser that refuses one text -/

/-- A session in which the same bytes are a file and the answer of the network, and in which the parser refuses their
text and no other. There is no engine, so that nothing is executed. -/
def divided (bytes : List UInt8) (text : Text) : Session where
  environment := { bindings := [(Environment.homeVariable, "/home")] }
  files := { nodes := [(["work"], .directory), (["work", "app.js"], .file bytes)] }
  directory := Path.ofString "/work"
  parser := some fun source =>
    if source = text then .error "refused" else .ok (.record [("type", .text "Program")])
  engineInstalled := false
  network := fun _ => .ok (.success bytes)

section divided

variable {bytes : List UInt8} {text source : Text} {u : Session}

theorem exec_settings_divided (bytes : List UInt8) (text : Text) :
    ((Program.settings {}).exec (divided bytes text)).1 = .ok {} := by
  have hglobal : Config.globalFile (divided bytes text).toSurroundings = .ok none := rfl
  have hown : (Config.ownLayer (divided bytes text).toSurroundings (divided bytes text).directory none).outcome =
      .ok [] := rfl
  have hoverride : (Config.overrideLayer (.mapping (CommandOptions.overrides {}).toMapping)).outcome = .ok [] := rfl
  have hlayers : Config.layers (divided bytes text).toSurroundings (divided bytes text).directory none
      (.mapping (CommandOptions.overrides {}).toMapping) = .ok [] := by
    simp only [Config.layers, hglobal, hown, hoverride]
    rfl
  rw [Program.exec_settings, Program.loading, Config.outcome_load]
  exact (congrArg (· >>= Config.ofLayers) hlayers).trans Config.ofLayers_nil

theorem exec_reporter_divided (hu : u.quiet = (divided bytes text).quiet) :
    ((Plugins.reporter? ({} : Config).format).exec u).1 = .ok (some .text) := by
  rw [Session.eq_of_quiet_eq hu.symm]
  rfl

theorem exec_sandbox_divided (hu : u.quiet = (divided bytes text).quiet) :
    ((Plugins.sandbox? ({} : Config).sandbox ({} : Config).options).exec u).1 = .error (.missing .engine) := by
  rw [Session.eq_of_quiet_eq hu.symm]
  rfl

theorem exec_instrument_divided (hu : u.quiet = (divided bytes text).quiet) :
    ((instrumentSource text ({} : Config).probeName).exec u).1 = .error (.unparsable "refused") := by
  have hparser : u.parser = (divided bytes text).parser := congrArg (·.parser) hu
  unfold instrumentSource
  simp only [exec_bind, exec_get, hparser, divided, if_true]
  rfl

/-- A tree without syntax nodes has no units, and can be instrumented whatever the text is. -/
theorem exec_instrument_divided_of_ne (hu : u.quiet = (divided bytes text).quiet) (h : source ≠ text) :
    ∃ run, ((instrumentSource source ({} : Config).probeName).exec u).1 = .ok run := by
  have hparser : u.parser = (divided bytes text).parser := congrArg (·.parser) hu
  have hroot : Tree.ofValue (.record [("type", .text "Program")]) = .ok (.object (.mk (some "Program") none [])) := rfl
  have hcandidates : (Node.mk (some "Program") none []).walk.flatMap Node.candidates = [] := rfl
  obtain ⟨run, hrun⟩ :
      ∃ run, CoverageRun.ofTree source Probe.defaultName (.mk (some "Program") none []) = .ok run := by
    have hname : Probe.isName Probe.defaultName = true := rfl
    have horder : InOrder source.length 0 (-1) [] := trivial
    simp only [CoverageRun.ofTree, Registry.discover, hcandidates, Registry.addAll, Registry.sorted, List.mergeSort_nil,
      instrument_of_inOrder hname horder]
    exact ⟨_, rfl⟩
  refine ⟨run, ?_⟩
  unfold instrumentSource
  simp only [exec_bind, exec_get, hparser, divided, h, if_false, hroot, hrun, exec_ofExcept, Except.mapError, exec_pure,
    exec_log]

namespace Cover

/-- The status with which a text is covered in a divided session. -/
def dividedStatus (source text : Text) : ExitStatus := if source = text then .programError else .missingDependency

theorem exec_report_divided {script : ScriptSource} (hu : u.quiet = (divided bytes text).quiet)
    (hadds : Adds (fun _ => True) script.load)
    (hload : ∀ v : Session, v.quiet = u.quiet → (script.load.exec v).1 = .ok source) :
    ((report script {} .absent).exec u).1 = .ok (dividedStatus source text) := by
  obtain ⟨v, hv, hformat⟩ := (Plugins.adds_reporter? (P := fun _ => True) _).exists_exec (exec_reporter_divided hu)
  obtain ⟨w, hw, htext⟩ := hadds.exists_exec (hload v hv)
  have hquiet : w.quiet = (divided bytes text).quiet := hw.trans (hv.trans hu)
  obtain ⟨t, hcover⟩ :
      ∃ t, (coverSource script {} .absent).run.exec u = (.ok (.error (dividedStatus source text)), t) := by
    rw [coverSource_eq, exec_run_bind (exec_run_lift hformat), exec_run_bind (exec_obtain htext), dividedStatus]
    by_cases h : source = text
    · subst h
      obtain ⟨_, -, hrefused⟩ :=
        (adds_instrumentSource (P := fun _ => True) _ _).exists_exec (exec_instrument_divided hquiet)
      obtain ⟨t, hprepare⟩ := exec_prepare_unparsable hrefused
      rw [if_pos rfl]
      exact ⟨t, exec_run_bind_status hprepare⟩
    · obtain ⟨run, hok⟩ := exec_instrument_divided_of_ne hquiet h
      obtain ⟨x, hx, hrun⟩ := (adds_instrumentSource (P := fun _ => True) _ _).exists_exec hok
      obtain ⟨_, -, hsandbox⟩ := (Plugins.adds_sandbox? (P := fun _ => True) (fun _ _ => trivial) _).exists_exec
        (exec_sandbox_divided (hx.trans hquiet))
      obtain ⟨t, hchoose⟩ := exec_chooseSandbox_missing hsandbox
      rw [if_neg h, coverText, exec_run_bind (exec_prepare hrun)]
      exact ⟨t, exec_run_bind_status hchoose⟩
  rw [report, settle, exec_bind_ok hcover]
  rfl

end Cover

end divided

namespace Program

variable {bytes : List UInt8} {text source : Text}

theorem ofArguments_run :
    Invocation.ofArguments ["run", "app.js"] = .ok ⟨{}, some (.run (.ofString "app.js"), {})⟩ := by
  decide +kernel

theorem ofArguments_fetch :
    Invocation.ofArguments ["fetch", "http://x/app.js"] = .ok ⟨{}, some (.fetch "http://x/app.js", {})⟩ := by
  decide +kernel

theorem resolve_address : Address.resolve "http://x/app.js" = .ok "http://x/app.js" := rfl

/-- An invocation without options ends in a divided session with the status that its text calls for. -/
theorem main_divided {words : List String} {command : Command} {script : Cover.ScriptSource}
    (hwords : Invocation.ofArguments words = .ok ⟨{}, some (command, {})⟩)
    (hscript : command.script? {} = some script)
    (hload : ∀ v : Session, v.quiet = (divided bytes text).quiet → (script.load.exec v).1 = .ok source) :
    ((main words).run (divided bytes text)).1.outcome = .ok (Cover.dividedStatus source text) := by
  obtain ⟨u, hu, hsettings⟩ := (adds_settings (P := fun _ => True) {}).exists_exec (exec_settings_divided bytes text)
  have hreport : (perform command {} {}).exec u =
      (.ok (Cover.dividedStatus source text), ((perform command {} {}).exec u).2) := by
    refine Prod.ext ?_ rfl
    rw [perform_of_script? hscript]
    exact Cover.exec_report_divided hu (adds_load hscript) fun v hv => hload v (hv.trans hu)
  rw [run_main hwords, exec_invoke_ok rfl hsettings, exec_attempt_ok hreport]

/-- **`run` and `fetch`.** A file and an answer whose bytes differ in that the line ends of the file are line feeds in
the answer are covered alike, whatever else the session holds and the two invocations ask for. The same bytes are
covered alike in every session exactly if no carriage return occurs in their text. -/
theorem alike_iff (h : decodeUtf8 bytes = .ok text) :
    (∀ s sent runWords fetchWords, decodeUtf8 sent = .ok text.unifyLineEnds →
      Counterparts s bytes sent runWords fetchWords → Alike s runWords fetchWords) ∧
    ((∀ s runWords fetchWords, Counterparts s bytes bytes runWords fetchWords → Alike s runWords fetchWords) ↔
      '\r' ∉ text) := by
  refine ⟨fun s sent runWords fetchWords hsent hcounter => hcounter.alike h hsent, fun halike => ?_, fun htext => ?_⟩
  · have hrun := main_divided ofArguments_run rfl fun v (hv : v.quiet = (divided bytes text).quiet) => by
      rw [Session.eq_of_quiet_eq hv.symm]
      exact exec_readText rfl h
    have hfetch := main_divided ofArguments_fetch rfl fun v (hv : v.quiet = (divided bytes text).quiet) => by
      rw [Session.eq_of_quiet_eq hv.symm]
      exact exec_fetchSource resolve_address rfl h _
    have hcounter : Counterparts (divided bytes text) bytes bytes ["run", "app.js"] ["fetch", "http://x/app.js"] :=
      ⟨_, _, _, _, _, ofArguments_run, ofArguments_fetch, rfl, resolve_address, rfl⟩
    have hstatus := congrArg Ending.outcome (halike _ _ _ hcounter).ending
    rw [hrun, hfetch, Except.ok.injEq, Cover.dividedStatus, Cover.dividedStatus, if_pos rfl] at hstatus
    rw [← Text.unifyLineEnds_eq_self_iff]
    by_contra hne
    rw [if_neg hne] at hstatus
    cases hstatus
  · intro s runWords fetchWords hcounter
    rw [← Text.unifyLineEnds_eq_self_iff] at htext
    exact hcounter.alike h (h.trans (congrArg _ htext.symm))

/-- A session with a file and an answer of the network, and a parser that takes any text for one program. -/
def served (stored sent : List UInt8) : Session where
  files := { nodes := [(["work"], .directory), (["work", "app.js"], .file stored)] }
  directory := Path.ofString "/work"
  parser := some fun source => .ok (syntaxValue "Program" 0 source.length [])
  network := fun _ => .ok (.success sent)

def runJson : List String := ["run", "app.js", "--format", "json"]

def fetchJson : List String := ["fetch", "http://x/app.js", "--format", "json"]

theorem counterparts_served (stored sent : List UInt8) :
    Counterparts (served stored sent) stored sent runJson fetchJson :=
  ⟨{}, { format := .value .json }, .ofString "app.js", "http://x/app.js", "http://x/app.js", by decide +kernel,
    by decide +kernel, rfl, resolve_address, rfl⟩

/-- Two lines, the first of which ends in a carriage return and a line feed. -/
def returnFeed : List UInt8 := [0x61, 0x0d, 0x0a, 0x62]

theorem alike_iff_returnFeed : decodeUtf8 returnFeed = .ok "a\r\nb".toList ∧
    Alike (served returnFeed [0x61, 0x0a, 0x62]) runJson fetchJson ∧
    ¬ ∀ s runWords fetchWords,
      Counterparts s returnFeed returnFeed runWords fetchWords → Alike s runWords fetchWords := by
  have htext : decodeUtf8 returnFeed = .ok "a\r\nb".toList := by decide +kernel
  obtain ⟨halike, hiff⟩ := alike_iff htext
  refine ⟨htext, halike _ _ _ _ (by decide +kernel) (counterparts_served _ _), fun hall => ?_⟩
  exact hiff.1 hall (by decide +kernel)

/-- The same bytes, covered from a file and from an address, with different reports. -/
theorem not_alike_returnFeed : Counterparts (served returnFeed returnFeed) returnFeed returnFeed runJson fetchJson ∧
    ((main runJson).run (served returnFeed returnFeed)).2.output ≠
      ((main fetchJson).run (served returnFeed returnFeed)).2.output :=
  ⟨counterparts_served _ _, by decide +kernel⟩

end Program

end ScriptCoverage
