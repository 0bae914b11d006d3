import ScriptCoverage.Proofs.Session.Agree
import ScriptCoverage.Run.Coverage

/-!
# Runs agree

Making a plugin, instrumenting a script and executing it look neither at the log nor at the events of a session.
-/

namespace ScriptCoverage

open ScriptCoverage.Action

namespace Plugins

theorem agree_discover (group : String) (base : Option PluginBase) (builtins : Plugins) :
    Agree (discover group base builtins) (discover group base builtins) := by
  refine agree_get_bind fun s log events => ?_
  dsimp only
  split
  · exact agree_throw _
  · exact agree_ofLogged _

theorem agree_makeSandbox (engine : String) (options : Mapping Value) :
    Agree (makeSandbox engine options) (makeSandbox engine options) := by
  unfold makeSandbox
  refine Agree.ite (agree_throw_bind _ _ _) (agree_get_bind fun s log events => Agree.ite (agree_throw_bind _ _ _) ?_)
  split
  · exact agree_pure _
  · exact agree_pure _
  · exact (agree_emit _ _).bind fun _ => agree_pure _

theorem agree_make (options : Mapping Value) (loaded : Loaded) : Agree (make options loaded) (make options loaded) := by
  unfold make
  split
  · exact Agree.ite (agree_throw _) (agree_pure _)
  · exact agree_pure _
  · exact agree_pure _
  · exact (agree_makeSandbox _ _).bind fun made => agree_pure _

theorem agree_make? (plugins : Plugins) (name : Value) (options : Mapping Value) :
    Agree (plugins.make? name options) (plugins.make? name options) := by
  refine (agree_ofExcept _).bind fun found => ?_
  split
  · exact agree_make _ _
  · exact agree_pure _

theorem agree_sandbox? (name : Value) (options : Mapping Value) :
    Agree (sandbox? name options) (sandbox? name options) := by
  unfold sandbox?
  refine Agree.ite (agree_throw_bind _ _ _) ?_
  refine (agree_discover _ _ _).bind fun plugins => (agree_make? plugins name options).bind fun made => ?_
  split
  · exact agree_pure _
  · exact agree_pure _

end Plugins

theorem agree_instrumentSource (source : Text) (name : String) :
    Agree (instrumentSource source name) (instrumentSource source name) := by
  refine agree_get_bind fun s log events => ?_
  dsimp only
  split
  · exact agree_throw_bind _ _ _
  · refine (agree_ofExcept _).bind fun tree => (agree_ofExcept _).bind fun part => ?_
    split
    · exact (agree_pure _).bind fun root => (agree_log _ _ _ _).bind fun _ => (agree_log _ _ _ _).bind fun _ =>
        (agree_ofExcept _).bind fun run => (agree_log _ _ _ _).bind fun _ => agree_pure run
    · exact agree_throw_bind _ _ _

/-- What the engine does in an execution depends on its plans. -/
theorem CoverageRun.agree_execute (run : CoverageRun) (sandbox : Sandbox) :
    Agree (ExceptT.lift (run.execute (some sandbox))) (ExceptT.lift (run.execute (some sandbox))) := by
  intro s t hst
  rw [Session.eq_of_quiet_eq hst]
  unfold execute
  split
  · exact ⟨rfl, rfl⟩
  · obtain ⟨_, _, _, _, _, _, _ | ⟨plan, rest⟩, _, _, _⟩ := s
    · exact ⟨rfl, rfl⟩
    · exact ⟨rfl, rfl⟩

end ScriptCoverage
