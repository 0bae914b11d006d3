import ScriptCoverage.Proofs.Run.Discovery

/-!
# Which options reach a sandbox

A sandbox is made by calling its class with the options of the settings. Classes come from packages, and most options
leave no trace in what the class of a built-in sandbox makes, so here the call is a parameter (`Construction`). The
choice of a sandbox is the one of the program if the call is the program's own (`sandboxBy?_makeSandbox`). It comes to
the call with the options as they are, unless one of them has a name that the choice takes itself: then it comes to
nothing at all (`exec_sandboxBy?`, `exec_sandboxBy?_taken`).
-/

namespace ScriptCoverage.Plugins

open ScriptCoverage.Action

/-- What calling a class of sandboxes does: the class is given by its name and its engine, the arguments are options. -/
abbrev Construction := String → String → Mapping Value → Action Sandbox

/-- Makes a plugin of what an entry point loaded to, a sandbox by calling its class. -/
def makeBy (construct : Construction) (options : Mapping Value) : Loaded → Action (Option Plugin)
  | .cls (.sandbox name engine) => return some (.sandbox name (← construct name engine options))
  | loaded => make options loaded

/-- The plugin of a name, if there is one. -/
def makeBy? (construct : Construction) (plugins : Plugins) (name : Value) (options : Mapping Value) :
    Action (Option Plugin) := do
  match ← Action.ofExcept ((plugins.named name).mapError Failure.fault) with
  | some loaded => makeBy construct options loaded
  | none => return none

/-- A fresh sandbox of a name, if there is a sandbox of that name. -/
def sandboxBy? (construct : Construction) (name : Value) (options : Mapping Value) : Action (Option Sandbox) := do
  if options.any fun (key, _) => !isPassable key then throw (.fault .wrongType)
  match ← makeBy? construct (← sandboxes) name options with
  | some (.sandbox _ made) => return some made
  | _ => return none

theorem makeBy_makeSandbox (options : Mapping Value) : makeBy (fun _ => makeSandbox) options = make options := by
  funext loaded
  unfold makeBy
  split
  · rfl
  · rfl

theorem makeBy?_makeSandbox : makeBy? (fun _ => makeSandbox) = make? := by
  funext plugins name options
  rw [makeBy?, makeBy_makeSandbox]
  rfl

/-- The choice that calls the program's own classes is the program's own. -/
theorem sandboxBy?_makeSandbox (name : Value) (options : Mapping Value) :
    sandboxBy? (fun _ => makeSandbox) name options = sandbox? name options := by
  rw [sandboxBy?, makeBy?_makeSandbox]
  rfl

/-! ## What the choice comes to -/

variable {construct : Construction} {options : Mapping Value} {name : Value} {plugins : Plugins}
  {className engine : String} {s t : Session}

/-- Whether there is a sandbox of a name, of which class and with which engine. -/
def Offers (s : Session) (name : Value) (className engine : String) : Prop :=
  ∃ plugins, (sandboxes.exec s).1 = .ok plugins ∧ plugins.named name = .ok (some (.cls (.sandbox className engine)))

/-- No option has a name that the choice takes itself. -/
def Passable (options : Mapping Value) : Prop := ∀ name ∈ choiceNames, options.get? name = none

instance (options : Mapping Value) : Decidable (Passable options) :=
  inferInstanceAs (Decidable (∀ name ∈ choiceNames, _))

theorem any_not_isPassable (hkeys : ∀ entry ∈ options, ∃ key, entry.1 = .text key) :
    (options.any fun (key, _) => !isPassable key) = true ↔ ¬ Passable options := by
  have hfind (name : String) : options.get? name = none ↔ ∀ entry ∈ options, entry.1 ≠ .text name := by
    rw [Mapping.get?, ← Option.not_isSome_iff_eq_none, Mapping.find?_isSome_iff, not_exists]
    refine forall_congr' fun entry => ?_
    rw [not_and]
    refine forall_congr' fun hentry => ?_
    obtain ⟨key, hkey⟩ := hkeys entry hentry
    rw [hkey]
    rfl
  rw [List.any_eq_true]
  simp only [Passable, hfind]
  constructor
  · rintro ⟨entry, hentry, hpassable⟩ hfree
    obtain ⟨key, hkey⟩ := hkeys entry hentry
    rw [hkey] at hpassable
    have htaken : key ∈ choiceNames := by simpa [isPassable] using hpassable
    exact hfree key htaken entry hentry hkey
  · intro htaken
    simp only [not_forall] at htaken
    obtain ⟨name, hname, entry, hentry, hkey⟩ := htaken
    refine ⟨entry, hentry, ?_⟩
    rw [Classical.not_not.1 hkey]
    simpa [isPassable] using hname

/-- Finding sandboxes adds to the log of a session only. -/
theorem exec_sandboxes (h : (sandboxes.exec s).1 = .ok plugins) :
    ∃ log, sandboxes.exec s = (.ok plugins, { s with log := s.log ++ log }) := by
  cases hpoints : s.entryPoints.ofGroup sandboxGroup with
  | error text =>
    rw [sandboxes, discover, exec_bind_ok (exec_get s)] at h
    simp only [hpoints] at h
    cases h
  | ok points =>
    have hexec := exec_discover (some .sandbox) builtinSandboxes hpoints
    rw [sandboxes] at h ⊢
    rw [hexec] at h ⊢
    cases h
    exact ⟨_, rfl⟩

/-- **Passed on.** The choice calls the class of the name with the options, and gives what that makes. -/
theorem exec_sandboxBy? (hkeys : ∀ entry ∈ options, ∃ key, entry.1 = .text key) (hpassable : Passable options)
    (hoffers : Offers s name className engine) :
    ∃ log, (sandboxBy? construct name options).exec s =
      (some <$> construct className engine options : Action (Option Sandbox)).exec { s with log := s.log ++ log } := by
  obtain ⟨plugins, hplugins, hnamed⟩ := hoffers
  obtain ⟨log, hsandboxes⟩ := exec_sandboxes hplugins
  have hany : ¬ (options.any fun (key, _) => !isPassable key) = true :=
    fun hany => (any_not_isPassable hkeys).1 hany hpassable
  refine ⟨log, ?_⟩
  rw [sandboxBy?, if_neg hany]
  dsimp only
  rw [exec_bind_ok hsandboxes, makeBy?, hnamed]
  simp only [exec_bind, exec_ofExcept, Except.mapError, makeBy, map_eq_pure_bind]
  cases (construct className engine options).exec { s with log := s.log ++ log } with
  | mk outcome t => cases outcome <;> rfl

/-- **Taken.** An option of a taken name is an error, and then nothing has happened. -/
theorem exec_sandboxBy?_taken (hkeys : ∀ entry ∈ options, ∃ key, entry.1 = .text key)
    (htaken : ¬ Passable options) :
    (sandboxBy? construct name options).exec s = (.error (.fault .wrongType), s) := by
  rw [sandboxBy?, if_pos ((any_not_isPassable hkeys).2 htaken)]
  rfl

end ScriptCoverage.Plugins
