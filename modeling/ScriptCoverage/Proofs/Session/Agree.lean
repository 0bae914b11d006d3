import ScriptCoverage.Proofs.Session.Exec

/-!
# Actions that agree

What was logged and what the outside world has seen decides nothing that comes later. Two sessions agree if they
differ in their logs and events only, and two actions agree if they come to one outcome from any such sessions, and
leave such sessions behind. As in `Adds` there is a lemma for each way of making an action, so that two longer
actions agree because their steps do (`Agree.bind`). The steps may log different messages (`agree_log`).
-/

namespace ScriptCoverage

namespace Session

/-- The session without its log and its events. -/
def quiet (s : Session) : Session := { s with log := [], events := [] }

theorem eq_of_quiet_eq {s t : Session} (h : s.quiet = t.quiet) : t = { s with log := t.log, events := t.events } := by
  obtain ⟨_, parser, installed, points, network, version, plans, events, log, output⟩ := s
  cases t
  simp_all [quiet]

end Session

namespace Action

variable {α β : Type} {s t : Session}

/-- Two actions that come to one outcome from two sessions, and to sessions that agree. -/
structure AgreeAt (s t : Session) (x y : Action α) : Prop where
  outcome : (x.exec s).1 = (y.exec t).1
  quiet : (x.exec s).2.quiet = (y.exec t).2.quiet

theorem AgreeAt.refl (s : Session) (x : Action α) : AgreeAt s s x x := ⟨rfl, rfl⟩

/-- Two actions that agree from all sessions that agree. -/
def Agree (x y : Action α) : Prop := ∀ ⦃s t : Session⦄, s.quiet = t.quiet → AgreeAt s t x y

/-- An action that adds to the log and the events ends in a session that agrees. -/
theorem Adds.quiet_eq {P : Event → Prop} {x : Action α} (h : Adds P x) (s : Session) :
    (x.exec s).2.quiet = s.quiet := by
  obtain ⟨log, events, -, hafter⟩ := h s
  rw [hafter]
  rfl

theorem Adds.exists_exec {P : Event → Prop} {x : Action α} {outcome : Except Failure α} (h : Adds P x)
    (houtcome : (x.exec s).1 = outcome) : ∃ t, t.quiet = s.quiet ∧ x.exec s = (outcome, t) :=
  ⟨_, h.quiet_eq s, Prod.ext houtcome rfl⟩

/-- The steps that follow have to agree only where the first ones lead to. -/
theorem AgreeAt.bind {x y : Action α} {f g : α → Action β} (h : AgreeAt s t x y)
    (hnext : ∀ a u v, x.exec s = (.ok a, u) → y.exec t = (.ok a, v) → u.quiet = v.quiet →
      AgreeAt u v (f a) (g a)) :
    AgreeAt s t (x >>= f) (y >>= g) := by
  obtain ⟨houtcome, hquiet⟩ := h
  rcases hx : x.exec s with ⟨e | a, u⟩
  · rcases hy : y.exec t with ⟨e' | b, v⟩
    · rw [hx, hy] at houtcome hquiet
      exact ⟨by rw [exec_bind_error hx, exec_bind_error hy, Except.error.inj houtcome],
        by rw [exec_bind_error hx, exec_bind_error hy]; exact hquiet⟩
    · rw [hx, hy] at houtcome
      cases houtcome
  · rcases hy : y.exec t with ⟨e' | b, v⟩
    · rw [hx, hy] at houtcome
      cases houtcome
    · rw [hx, hy] at houtcome hquiet
      cases houtcome
      have hrest := hnext a u v hx hy hquiet
      exact ⟨by rw [exec_bind_ok hx, exec_bind_ok hy]; exact hrest.outcome,
        by rw [exec_bind_ok hx, exec_bind_ok hy]; exact hrest.quiet⟩

/-- What follows an action that adds to the log and the events only begins where the action began. -/
theorem Adds.agreeAt_bind {P : Event → Prop} {x : Action α} {f g : α → Action β} (h : Adds P x)
    (hnext : ∀ a u, u.quiet = s.quiet → AgreeAt u u (f a) (g a)) : AgreeAt s s (x >>= f) (x >>= g) := by
  refine AgreeAt.bind (.refl s x) fun a u v hu hv _ => ?_
  obtain rfl : u = v := congrArg Prod.snd (hu.symm.trans hv)
  refine hnext a u ?_
  have hquiet := h.quiet_eq s
  rwa [hu] at hquiet

theorem Agree.bind {x y : Action α} {f g : α → Action β} (h : Agree x y) (hnext : ∀ a, Agree (f a) (g a)) :
    Agree (x >>= f) (y >>= g) := fun _ _ hst => (h hst).bind fun a _ _ _ _ huv => hnext a huv

theorem agree_pure (a : α) : Agree (pure a) (pure a) := fun _ _ h => ⟨rfl, h⟩

theorem agree_throw (e : Failure) : Agree (throw e : Action α) (throw e) := fun _ _ h => ⟨rfl, h⟩

theorem agree_throw_bind (e : Failure) (f g : α → Action β) :
    Agree ((throw e : Action α) >>= f) ((throw e : Action α) >>= g) := fun _ _ h => ⟨rfl, h⟩

theorem agree_ofExcept (result : Except Failure α) : Agree (ofExcept result) (ofExcept result) := fun _ _ h => ⟨rfl, h⟩

theorem agree_ofLogged (m : Logged α) : Agree (ofLogged m) (ofLogged m) := fun _ _ h => ⟨rfl, h⟩

theorem agree_log (level level' : LogLevel) (message message' : String) :
    Agree (log level message) (log level' message') := fun _ _ h => ⟨rfl, h⟩

theorem agree_emit (event event' : Event) : Agree (emit event) (emit event') := fun _ _ h => ⟨rfl, h⟩

theorem agree_print (text : Text) : Agree (print text) (print text) :=
  fun _ _ h => ⟨rfl, congrArg (fun q : Session => { q with output := q.output ++ text }) h⟩

theorem Agree.ite {c : Prop} [Decidable c] {x y x' y' : Action α} (h : Agree x y) (h' : Agree x' y') :
    Agree (if c then x else x') (if c then y else y') := by
  split
  · exact h
  · exact h'

theorem AgreeAt.attempt {x y : Action α} (h : AgreeAt s t x y) : AgreeAt s t (attempt x) (attempt y) :=
  ⟨congrArg Except.ok h.outcome, h.quiet⟩

theorem Agree.attempt {x y : Action α} (h : Agree x y) : Agree (attempt x) (attempt y) := fun _ _ hst => (h hst).attempt

/-- An action that looks at the session must not look at its log or its events. -/
theorem agree_get_bind {f g : Session → Action β} (h : ∀ s log events, Agree (f s) (g { s with log, events })) :
    Agree (get >>= f) (get >>= g) := by
  intro s t hst
  have hnext := h s t.log t.events
  rw [← Session.eq_of_quiet_eq hst] at hnext
  exact ⟨(hnext hst).outcome, (hnext hst).quiet⟩

theorem agree_writeText (path : Path) (text : Text) : Agree (writeText path text) (writeText path text) := by
  refine agree_get_bind fun s log events => ?_
  exact (agree_ofExcept _).bind fun files _ _ _ => ⟨rfl, rfl⟩

end Action

end ScriptCoverage
