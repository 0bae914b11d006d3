import ScriptCoverage.Proofs.Session.Exec
import ScriptCoverage.Run.Sandbox

/-!
# What making plugins changes

Looking plugins up and making them adds to the log of a session, and a sandbox that is made with a memory limit
tells the engine of it. Nothing else changes.
-/

namespace ScriptCoverage.Plugins

open ScriptCoverage.Action

variable {P : Event → Prop} {options : Mapping Value}

theorem adds_discover (group : String) (base : Option PluginBase) (builtins : Plugins) :
    Adds P (discover group base builtins) := by
  refine adds_get.bind fun s => ?_
  split
  · exact adds_throw _
  · exact adds_ofLogged _

theorem adds_makeSandbox (h : ∀ limit, options.get? "memory_limit" = some limit → P (.memoryLimit limit))
    (engine : String) : Adds P (makeSandbox engine options) := by
  unfold makeSandbox
  refine Adds.ite (adds_throw_bind _ _) (adds_get.bind fun s => Adds.ite (adds_throw_bind _ _) ?_)
  split
  · exact adds_pure _
  · exact adds_pure _
  · exact (adds_emit (h _ ‹_›)).bind fun _ => adds_pure _

theorem adds_make (h : ∀ limit, options.get? "memory_limit" = some limit → P (.memoryLimit limit))
    (loaded : Loaded) : Adds P (make options loaded) := by
  unfold make
  split
  · split
    · exact adds_throw _
    · exact adds_pure _
  · exact adds_pure _
  · exact adds_pure _
  · exact (adds_makeSandbox h _).bind fun made => adds_pure _

theorem adds_make? (h : ∀ limit, options.get? "memory_limit" = some limit → P (.memoryLimit limit))
    (plugins : Plugins) (name : Value) : Adds P (plugins.make? name options) := by
  refine (adds_ofExcept _).bind fun found => ?_
  split
  · exact adds_make h _
  · exact adds_pure _

theorem adds_reporter? (name : Value) : Adds P (reporter? name) := by
  refine (adds_discover _ _ _).bind fun plugins => (adds_make? (by simp [Mapping.get?]) plugins name).bind fun made => ?_
  split
  · exact adds_pure _
  · exact adds_pure _

theorem adds_sandbox? (h : ∀ limit, options.get? "memory_limit" = some limit → P (.memoryLimit limit))
    (name : Value) : Adds P (sandbox? name options) := by
  unfold sandbox?
  refine Adds.ite (adds_throw_bind _ _) ?_
  refine (adds_discover _ _ _).bind fun plugins => (adds_make? h plugins name).bind fun made => ?_
  split
  · exact adds_pure _
  · exact adds_pure _

theorem adds_freshDefault : Adds P freshDefault := by
  refine (adds_sandbox? (by simp [Mapping.get?]) _).bind fun made => ?_
  split
  · exact adds_pure _
  · exact adds_throw _

end ScriptCoverage.Plugins
