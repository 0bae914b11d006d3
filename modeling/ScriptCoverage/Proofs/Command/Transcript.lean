import ScriptCoverage.Proofs.Command.Counterparts
import ScriptCoverage.Proofs.Probe.Ledger
import ScriptCoverage.Proofs.Session.FileTree
import ScriptCoverage.Proofs.Text.Charset

/-!
# What `instrument` writes to a file

A script that is instrumented into a file goes through two conversions of bytes besides: its own bytes are read as a
text, and the instrumented text is written as bytes. Writing loses nothing, but reading writes every line end as a line
feed. So without its probes the file that is written holds the text of the script with its line ends as line feeds,
which is the text itself exactly if no carriage return occurs in it (`transcribed_iff`).
-/

namespace ScriptCoverage

open ScriptCoverage.Action

/-- Removing insertions adds no character. -/
theorem mem_stripFrom {c : Char} {text : Text} {insertions : List Insertion} :
    ∀ {cursor : Int}, c ∈ stripFrom text cursor insertions → c ∈ text := by
  induction insertions with
  | nil =>
    intro cursor h
    exact List.mem_of_mem_drop h
  | cons i rest ih =>
    intro cursor h
    rcases List.mem_append.1 h with h | h
    · exact List.mem_of_mem_take (List.mem_of_mem_drop h)
    · exact ih h

/-- Without its probes, the script of a run is the text that the run was made of. -/
theorem CoverageRun.strip_of_ofTree {source : Text} {name : String} {root : Node} {run : CoverageRun}
    (h : ofTree source name root = .ok run) : run.instrumented.strip = source := by
  unfold ofTree at h
  cases hmade : instrument source (Registry.discover { source } root).1 name with
  | error e => simp only [hmade, bind, Except.bind] at h; cases h
  | ok script =>
    simp only [hmade, bind, Except.bind] at h
    cases h
    exact (instrument_records hmade).1

theorem Action.read_of_exec_writeText {s t : Session} {path : Path} {text : Text}
    (h : (writeText path text).exec s = (.ok (), t)) : t.files.read t.directory path = .ok (encodeUtf8 text) := by
  obtain ⟨_, _, hget, h⟩ := of_exec_bind_ok h
  cases hget
  obtain ⟨files, _, hwrite, h⟩ := of_exec_bind_ok h
  cases h
  simp only [exec_ofExcept, Prod.mk.injEq] at hwrite
  obtain ⟨hwrite, rfl⟩ := hwrite
  unfold Failure.ofOpening at hwrite
  split at hwrite
  · cases hwrite
  · cases hresult : s.files.write s.directory path (encodeUtf8 text) with
    | error e => rw [hresult] at hwrite; cases hwrite
    | ok after =>
      rw [hresult] at hwrite
      cases hwrite
      exact FileTree.read_write hresult

namespace Cover

variable {s t : Session} {path out : Path} {config : Config} {text : Text} {status : ExitStatus}

/-- A script that cannot be instrumented ends a command with a status that is no success. -/
theorem exec_prepare_error (label : String) {name : String} {e : Failure}
    (h : (instrumentSource text name).exec s = (.error e, t)) :
    ∃ status u, (prepare label text name).run.exec s = (.ok (.error status), u) ∧ status.code ≠ 0 := by
  cases e with
  | missing dependency =>
    exact ⟨.missingDependency, _, (exec_run_bind (exec_run_attempt_error h)).trans rfl, by decide⟩
  | _ => exact ⟨.programError, _, (exec_run_bind (exec_run_attempt_error h)).trans rfl, by decide⟩

/-- If `instrument` ends well, the script was instrumented and what came out was written. -/
theorem of_exec_writeInstrumented (hread : ((Action.readText path).exec s).1 = .ok text)
    (h : (writeInstrumented path config (.value out)).exec s = (.ok status, t)) (hcode : status.code = 0) :
    ∃ run u v, u.quiet = s.quiet ∧ ((instrumentSource text config.probeName).exec u).1 = .ok run ∧
      (writeText out run.instrumented.text).exec v = (.ok (), t) := by
  obtain ⟨u, hu, hload⟩ := (adds_readText (P := fun _ => True) path).exists_exec hread
  have hexec : (writeInstrumented path config (.value out)).exec s = (settle (do
      let run ← prepare path.toString text config.probeName
      Action.log .info s!"{path}: {run.units.length} probes inserted"
      Action.writeText out run.instrumented.text
      return .success)).exec u := by
    rw [writeInstrumented, settle, settle, exec_bind, exec_run_bind (exec_run_attempt hload), exec_bind]
    rfl
  rw [hexec, settle] at h
  cases hmade : (instrumentSource text config.probeName).exec u with
  | mk outcome v =>
    cases outcome with
    | error e =>
      obtain ⟨refused, w, hprepare, hne⟩ := exec_prepare_error path.toString hmade
      rw [exec_bind_ok (exec_run_bind_status hprepare)] at h
      cases h
      exact absurd hcode hne
    | ok run =>
      have hprepare : (prepare path.toString text config.probeName).run.exec u = _ := exec_prepare hmade
      rw [exec_bind, exec_run_bind hprepare,
        exec_run_bind (exec_run_lift (exec_log .info s!"{path}: {run.units.length} probes inserted" v))] at h
      obtain ⟨log, hlog⟩ : ∃ log, log = v.log ++ [⟨.info, s!"{path}: {run.units.length} probes inserted"⟩] := ⟨_, rfl⟩
      rw [← hlog] at h
      cases hwrite : (Action.writeText out run.instrumented.text).exec { v with log } with
      | mk outcome w =>
        cases outcome with
        | error e =>
          rw [exec_run_bind_error (exec_run_lift_error hwrite)] at h
          cases h
        | ok written =>
          rw [exec_run_bind (exec_run_lift hwrite)] at h
          cases h
          exact ⟨run, u, _, hu, by rw [hmade], hwrite⟩

end Cover

/-- The exit code of an ending; a failure that nothing dealt with has none. -/
def Ending.code? (ending : Ending) : Option Nat := ending.outcome.toOption.map ExitStatus.code

theorem Ending.code?_eq_some {ending : Ending} {code : Nat} :
    ending.code? = some code ↔ ∃ status, ending.outcome = .ok status ∧ status.code = code := by
  unfold code?
  cases ending.outcome <;> simp [Except.toOption]

namespace Program

variable {s : Session} {words : List String} {flags : ProgramFlags} {path out : Path} {options : CommandOptions}
  {bytes : List UInt8} {text : Text}

/-- An invocation that ends well has loaded its settings and carried out its command. -/
theorem of_run_main {command : Command} {status : ExitStatus}
    (hwords : Invocation.ofArguments words = .ok ⟨flags, some (command, options)⟩) (hversion : flags.version = false)
    (h : ((main words).run s).1.outcome = .ok status) (hcode : status.code = 0) :
    ∃ config u, (settings options).exec s = (.ok config, u) ∧
      (perform command options config).exec u = (.ok status, ((main words).run s).2) := by
  rw [run_main hwords] at h ⊢
  dsimp only at h ⊢
  cases hsettings : (settings options).exec s with
  | mk outcome u =>
    cases outcome with
    | error e =>
      rw [exec_invoke_settings hversion hsettings] at h
      unfold Obstacle.outcome at h
      split at h
      all_goals cases h
      all_goals cases hcode
    | ok config =>
      rw [exec_invoke_ok hversion hsettings] at h ⊢
      refine ⟨config, u, rfl, ?_⟩
      cases hperform : (perform command options config).exec u with
      | mk outcome v =>
        cases outcome with
        | error e =>
          have hattempt : (Action.attempt (perform command options config)).exec u = (.ok (.error e), v) := by
            rw [exec_attempt, hperform]
          rw [attempt, exec_bind_ok hattempt] at h
          cases h
          cases hcode
        | ok result =>
          rw [exec_attempt_ok hperform] at h ⊢
          cases h
          rfl

/-- **Instrumenting into a file.** If the script in a file of UTF-8 is instrumented into a file and the exit code is 0,
then what was written is the instrumented text, and without the probes that the ledger lists it is the text of the
script with its line ends as line feeds. That is the text itself exactly if no carriage return occurs in it. -/
theorem transcribed_iff (hwords : Invocation.ofArguments words = .ok ⟨flags, some (.instrument path, options)⟩)
    (hversion : flags.version = false) (hout : options.output = .value out)
    (hread : Failure.ofOpening path (s.files.read s.directory path) = .ok bytes) (htext : decodeUtf8 bytes = .ok text)
    (hexit : ((main words).run s).1.code? = some 0) :
    ∃ config run written transcript,
      ((settings options).exec s).1 = .ok config ∧
      ((instrumentSource text.unifyLineEnds config.probeName).exec s).1 = .ok run ∧
      ((main words).run s).2.files.read ((main words).run s).2.directory out = .ok written ∧
      decodeUtf8 written = .ok transcript ∧ transcript = run.instrumented.text ∧
      stripFrom transcript 0 run.instrumented.insertions = text.unifyLineEnds ∧
      (stripFrom transcript 0 run.instrumented.insertions = text ↔ '\r' ∉ text) := by
  obtain ⟨status, houtcome, hcode⟩ := Ending.code?_eq_some.1 hexit
  obtain ⟨config, u, hsettings, hperform⟩ := of_run_main hwords hversion houtcome hcode
  have hu : u.quiet = s.quiet := by
    have hquiet := (adds_settings (P := fun _ => True) options).quiet_eq s
    rwa [hsettings] at hquiet
  rw [perform, hout] at hperform
  have hload : ((Action.readText path).exec u).1 = .ok text.unifyLineEnds := by
    have hfiles : u.files = s.files := congrArg (·.files) hu
    have hdirectory : u.directory = s.directory := congrArg (·.directory) hu
    rw [← hfiles, ← hdirectory] at hread
    exact exec_readText hread htext
  obtain ⟨run, v, w, hv, hmade, hwrite⟩ := Cover.of_exec_writeInstrumented hload hperform hcode
  have hrun : ((instrumentSource text.unifyLineEnds config.probeName).exec s).1 = .ok run := by
    rw [← hmade]
    exact ((agree_instrumentSource _ _) (hv.trans hu).symm).outcome
  obtain ⟨root, hroot⟩ := ofTree_of_instrumentSource (Prod.ext hrun rfl)
  have hstrip : stripFrom run.instrumented.text 0 run.instrumented.insertions = text.unifyLineEnds :=
    CoverageRun.strip_of_ofTree hroot
  refine ⟨config, run, _, _, by rw [hsettings], hrun, read_of_exec_writeText hwrite, decodeUtf8_encodeUtf8 _, rfl,
    hstrip, ?_⟩
  rw [hstrip, Text.unifyLineEnds_eq_self_iff]

def instrumentWords : List String := ["instrument", "app.js", "-o", "out.js"]

/-- The command ends well on a script with a carriage return and a line feed, and writes the text with a line feed. -/
theorem main_instrument_served : Invocation.ofArguments instrumentWords =
      .ok ⟨{}, some (.instrument (.ofString "app.js"), { output := .value (.ofString "out.js") })⟩ ∧
    ((main instrumentWords).run (served returnFeed [])).1.code? = some 0 ∧
    ((main instrumentWords).run (served returnFeed [])).2.files.read
      ((main instrumentWords).run (served returnFeed [])).2.directory (.ofString "out.js") =
        .ok (encodeUtf8 "__tailwindcov_track__(0);a\nb".toList) := by
  decide +kernel

/-- A script with a carriage return and a line feed loses the carriage return. -/
theorem transcribed_iff_returnFeed : decodeUtf8 returnFeed = .ok "a\r\nb".toList ∧
    ((main instrumentWords).run (served returnFeed [])).1.code? = some 0 ∧
    ∃ written transcript insertions,
      ((main instrumentWords).run (served returnFeed [])).2.files.read
        ((main instrumentWords).run (served returnFeed [])).2.directory (.ofString "out.js") = .ok written ∧
      decodeUtf8 written = .ok transcript ∧ stripFrom transcript 0 insertions = "a\nb".toList := by
  obtain ⟨harguments, hexit, -⟩ := main_instrument_served
  have htext : decodeUtf8 returnFeed = .ok "a\r\nb".toList := rfl
  have hread : Failure.ofOpening (.ofString "app.js") ((served returnFeed []).files.read
      (served returnFeed []).directory (.ofString "app.js")) = .ok returnFeed := rfl
  obtain ⟨-, run, written, transcript, -, -, hwritten, htranscript, -, hstrip, -⟩ :=
    transcribed_iff harguments rfl rfl hread htext hexit
  exact ⟨htext, hexit, written, transcript, run.instrumented.insertions, hwritten, htranscript, hstrip⟩

/-- What is written for a script with a carriage return holds none, so whatever is removed from it, the text of the
script is not left. -/
theorem not_transcribed_returnFeed : decodeUtf8 returnFeed = .ok "a\r\nb".toList ∧
    ((main instrumentWords).run (served returnFeed [])).1.code? = some 0 ∧
    ∃ written transcript,
      ((main instrumentWords).run (served returnFeed [])).2.files.read
        ((main instrumentWords).run (served returnFeed [])).2.directory (.ofString "out.js") = .ok written ∧
      decodeUtf8 written = .ok transcript ∧ ∀ insertions, stripFrom transcript 0 insertions ≠ "a\r\nb".toList := by
  obtain ⟨-, hexit, hwritten⟩ := main_instrument_served
  refine ⟨rfl, hexit, _, _, hwritten, decodeUtf8_encodeUtf8 _, fun insertions hstrip => ?_⟩
  have hreturn : '\r' ∈ stripFrom "__tailwindcov_track__(0);a\nb".toList 0 insertions := by
    rw [hstrip]
    decide
  exact absurd (mem_stripFrom hreturn) (by decide)

end Program

end ScriptCoverage
