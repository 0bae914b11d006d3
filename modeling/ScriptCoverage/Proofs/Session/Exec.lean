import ScriptCoverage.Session.Basic

/-!
# Running actions

`Action.exec` runs an action on a session and gives the outcome with the session that is left. The lemmas
here say what each way of making an action does, so that a proof about a longer one goes through it step
by step and never opens the layers of the monad.
-/

namespace ScriptCoverage

theorem Session.takePlan_eq (s : Session) : s.takePlan = (s.plans.headD {}, { s with plans := s.plans.tail }) := by
  unfold takePlan
  split
  · rename_i h; simp [h]
  · rename_i h
    have hs : s = { s with plans := [] } := by rw [← h]
    simpa [h] using hs

namespace Action

variable {α β : Type}

/-- The outcome of an action, and the session after it. -/
def exec (action : Action α) (s : Session) : Except Failure α × Session := action.run.run s

@[simp] theorem exec_pure (a : α) (s : Session) : exec (pure a) s = (.ok a, s) := rfl

@[simp] theorem exec_throw (e : Failure) (s : Session) : exec (throw e : Action α) s = (.error e, s) := rfl

@[simp] theorem exec_get (s : Session) : exec get s = (.ok s, s) := rfl

@[simp] theorem exec_set (s t : Session) : exec (set t) s = (.ok (), t) := rfl

@[simp] theorem exec_log (level : LogLevel) (message : String) (s : Session) :
    exec (log level message) s = (.ok (), { s with log := s.log ++ [⟨level, message⟩] }) := rfl

@[simp] theorem exec_emit (event : Event) (s : Session) :
    exec (emit event) s = (.ok (), { s with events := s.events ++ [event] }) := rfl

@[simp] theorem exec_ofExcept (result : Except Failure α) (s : Session) :
    exec (ofExcept result) s = (result, s) := rfl

@[simp] theorem exec_ofLogged (m : Logged α) (s : Session) :
    exec (ofLogged m) s = (.ok m.result, { s with log := s.log ++ m.log }) := rfl

@[simp] theorem exec_attempt (action : Action α) (s : Session) :
    exec (attempt action) s = (.ok (action.exec s).1, (action.exec s).2) := rfl

@[simp] theorem exec_lift (m : StateM Session α) (s : Session) :
    exec (ExceptT.lift m) s = (.ok (m.run s).1, (m.run s).2) := rfl

theorem exec_bind (action : Action α) (next : α → Action β) (s : Session) :
    exec (action >>= next) s = match action.exec s with
      | (.ok a, s) => (next a).exec s
      | (.error e, s) => (.error e, s) := by
  simp only [exec, ExceptT.run, bind, ExceptT.bind, ExceptT.mk, StateT.run, StateT.bind]
  rcases action s with ⟨e | a, t⟩
  · rfl
  · rfl

/-- An action that begins with one that succeeds goes on from where that one ends. -/
theorem exec_bind_ok {action : Action α} {next : α → Action β} {s t : Session} {a : α}
    (h : action.exec s = (.ok a, t)) : exec (action >>= next) s = (next a).exec t := by
  rw [exec_bind, h]

/-- An action that succeeds has succeeded in its first step and then in the rest. -/
theorem of_exec_bind_ok {action : Action α} {next : α → Action β} {s t : Session} {b : β}
    (h : exec (action >>= next) s = (.ok b, t)) : ∃ a u, action.exec s = (.ok a, u) ∧ (next a).exec u = (.ok b, t) := by
  rw [exec_bind] at h
  rcases hexec : action.exec s with ⟨e | a, u⟩
  · rw [hexec] at h; cases h
  · rw [hexec] at h; exact ⟨a, u, rfl, h⟩

/-- An action that begins with one that fails fails. -/
theorem exec_bind_error {action : Action α} {next : α → Action β} {s t : Session} {e : Failure}
    (h : action.exec s = (.error e, t)) : exec (action >>= next) s = (.error e, t) := by
  rw [exec_bind, h]

/-! ## Actions that add to a session -/

/-- An action that changes a session in two ways only: entries are added to the log, and events of which `P` holds
to the events. -/
def Adds (P : Event → Prop) (action : Action α) : Prop :=
  ∀ s, ∃ log events, (∀ e ∈ events, P e) ∧
    (action.exec s).2 = { s with log := s.log ++ log, events := s.events ++ events }

variable {P : Event → Prop}

theorem adds_pure (a : α) : Adds P (pure a) := fun s => ⟨[], [], by simp, by simp⟩

theorem adds_throw (e : Failure) : Adds P (throw e : Action α) := fun s => ⟨[], [], by simp, by simp⟩

theorem adds_throw_bind (e : Failure) (next : α → Action β) : Adds P ((throw e : Action α) >>= next) :=
  fun s => ⟨[], [], by simp, by simp⟩

theorem adds_get : Adds P get := fun s => ⟨[], [], by simp, by simp⟩

theorem adds_ofExcept (result : Except Failure α) : Adds P (ofExcept result) := fun s => ⟨[], [], by simp, by simp⟩

theorem adds_ofLogged (m : Logged α) : Adds P (ofLogged m) := fun s => ⟨m.log, [], by simp, by simp⟩

theorem adds_log (level : LogLevel) (message : String) : Adds P (log level message) :=
  fun s => ⟨[⟨level, message⟩], [], by simp, by simp⟩

theorem adds_emit {event : Event} (h : P event) : Adds P (emit event) :=
  fun s => ⟨[], [event], by simpa using h, by simp⟩

theorem Adds.attempt {action : Action α} (h : Adds P action) : Adds P (attempt action) := fun s => h s

theorem Adds.ite {c : Prop} [Decidable c] {a b : Action α} (ha : Adds P a) (hb : Adds P b) :
    Adds P (if c then a else b) := by
  split
  · exact ha
  · exact hb

theorem Adds.bind {action : Action α} {next : α → Action β} (h : Adds P action) (hnext : ∀ a, Adds P (next a)) :
    Adds P (action >>= next) := by
  intro s
  obtain ⟨log, events, hevents, hafter⟩ := h s
  rw [exec_bind]
  rcases hexec : action.exec s with ⟨outcome, t⟩
  rw [hexec] at hafter
  subst hafter
  cases outcome with
  | error e => exact ⟨log, events, hevents, rfl⟩
  | ok a =>
    obtain ⟨rest, more, hmore, hafter⟩ := hnext a { s with log := s.log ++ log, events := s.events ++ events }
    refine ⟨log ++ rest, events ++ more, ?_, by simpa using hafter⟩
    intro e he
    rcases List.mem_append.1 he with he | he
    · exact hevents e he
    · exact hmore e he

end Action

end ScriptCoverage
