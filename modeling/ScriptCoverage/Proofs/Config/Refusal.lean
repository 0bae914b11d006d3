import ScriptCoverage.Proofs.Config.Loading

/-!
# How loading fails

Settings that cannot be used are refused with an error of their own, `Failure.config`. Loading may also stop at
something that nobody turned into such an error, and `Config.Unhandled` lists what that can be. `Config.load_error`
says that there is nothing else: every stage of loading is taken apart once, and a global file that cannot be read
never is the cause.
-/

namespace ScriptCoverage

open ScriptCoverage.Loading

/-! ## Files that stand -/

namespace FileTree

variable {tree : FileTree} {directory path : Path}

theorem contains_error {e : FileError} (h : tree.contains directory path = .error e) :
    ∃ shown, e = .nameTooLong shown := by
  unfold contains at h
  split at h
  · cases h
  · split at h
    · cases h
    · cases h; exact ⟨_, rfl⟩
    · cases h

theorem holdsNull_of_contains (h : tree.contains directory path = .ok true) : path.holdsNull = false := by
  unfold contains at h
  split at h
  · cases h
  · rename_i hnull
    exact Bool.eq_false_iff.2 hnull

/-- What stands at a path cannot be read only if it is a directory. -/
theorem read_error {e : FileError} (hstands : tree.contains directory path = .ok true)
    (h : tree.read directory path = .error e) : ∃ shown, e = .isDirectory shown := by
  unfold contains at hstands
  rw [if_neg (by simp [holdsNull_of_contains hstands])] at hstands
  split at hstands
  · rename_i place hplace
    rw [Except.ok.injEq, Option.isSome_iff_exists] at hstands
    obtain ⟨node, hnode⟩ := hstands
    unfold read at h
    rw [hplace] at h
    dsimp only [bind, Except.bind] at h
    rw [hnode] at h
    cases node with
    | file bytes => cases h
    | directory => cases h; exact ⟨_, rfl⟩
  · cases hstands
  · cases hstands

end FileTree

namespace Config

/-! ## The stages of loading -/

/-- What loading may stop at without refusing the settings: there is no home directory, a path is too long to be
looked at, a directory stands in the place of a file, a file is no text, the YAML library raises an exception that is
not its own, a value or a key cannot be converted or compared, or an integer is beyond the range of numbers. -/
inductive Unhandled : Failure → Prop where
  | noHome : Unhandled .noHome
  | nameTooLong (path : String) : Unhandled (.file (.nameTooLong path))
  | isDirectory (path : String) : Unhandled (.file (.isDirectory path))
  | undecodable (cause : DecodeError) : Unhandled (.undecodable cause)
  | library (cause : LibraryError) : Unhandled (.library cause)
  | conversion (cause : ConversionError) : Unhandled (.conversion cause)
  | overflow : Unhandled (.fault .overflow)

/-- The failures of loading: the settings are refused, or something was not dealt with. -/
def LoadFailure (e : Failure) : Prop := (∃ cause, e = .config cause) ∨ Unhandled e

variable {s : Surroundings} {root path : Path} {custom : Option Path} {e : Failure}

theorem loadFailure_config (cause : ConfigError) : LoadFailure (.config cause) := Or.inl ⟨cause, rfl⟩

theorem loadFailure_stands (h : stands s path = .error e) : LoadFailure e := by
  obtain ⟨cause, hcause, rfl⟩ := of_mapError_error h
  obtain ⟨shown, rfl⟩ := FileTree.contains_error hcause
  exact Or.inr (.nameTooLong shown)

theorem loadFailure_firstStanding {paths : List Path} (h : firstStanding s paths = .error e) : LoadFailure e := by
  induction paths with
  | nil => cases h
  | cons path rest ih =>
    rcases of_bind_error h with h | ⟨found, -, h⟩
    · exact loadFailure_stands h
    · cases found with
      | true => cases h
      | false => exact ih h

/-- What is found stands there. -/
theorem stands_of_firstStanding {paths : List Path} (h : firstStanding s paths = .ok (some path)) :
    stands s path = .ok true := by
  induction paths with
  | nil => cases h
  | cons first rest ih =>
    obtain ⟨found, hfound, h⟩ := of_bind_ok h
    cases found with
    | true => cases h; exact hfound
    | false => exact ih h

theorem loadFailure_globalFile (h : globalFile s = .error e) : LoadFailure e := by
  rcases of_bind_error h with h | ⟨home, -, h⟩
  · unfold homeOf at h
    split at h
    · cases h
    · cases h; exact Or.inr .noHome
  · exact loadFailure_firstStanding h

/-- A document that is not there to be had: but for one that is malformed, the cause is not dealt with. -/
theorem loadFailure_readDocument (hstands : stands s path = .ok true) (h : readDocument s path = .error e) :
    LoadFailure (blame path e) := by
  rcases of_bind_error h with h | ⟨bytes, -, h⟩
  · unfold Failure.ofOpening at h
    have hcontains : s.files.contains s.directory path = .ok true := of_mapError_ok hstands
    rw [FileTree.holdsNull_of_contains hcontains, if_neg Bool.false_ne_true] at h
    obtain ⟨cause, hcause, rfl⟩ := of_mapError_error h
    obtain ⟨shown, rfl⟩ := FileTree.read_error hcontains hcause
    exact Or.inr (.isDirectory shown)
  · rcases of_bind_error h with h | ⟨text, -, h⟩
    · obtain ⟨cause, -, rfl⟩ := of_mapError_error h
      exact Or.inr (.undecodable cause)
    · obtain ⟨cause, -, rfl⟩ := of_mapError_error h
      cases cause with
      | malformed text => exact loadFailure_config (.malformed path text)
      | other cause => exact Or.inr (.library cause)

theorem loadFailure_readEntries (hstands : stands s path = .ok true) (h : (readEntries s path).outcome = .error e) :
    LoadFailure (blame path e) := by
  rw [outcome_readEntries] at h
  rcases of_bind_error h with h | ⟨v, -, h⟩
  · exact loadFailure_readDocument hstands h
  · split at h
    · cases h
    · cases h
    · cases h; exact loadFailure_config _

/-- A check that stops is not dealt with. -/
theorem loadFailure_check {data : Mapping Value} (h : (check path data).outcome = .error e) :
    LoadFailure (blame path e) := by
  rw [outcome_check] at h
  split at h
  · cases h
  · cases h; exact Or.inr (.conversion _)

theorem loadFailure_chosenLayer {label : String} (hstands : stands s path = .ok true)
    (h : (chosenLayer s label path).outcome = .error e) : LoadFailure e := by
  rw [outcome_chosenLayer, outcome_readLayer] at h
  obtain ⟨cause, hcause, rfl⟩ := of_mapError_error (of_map_error h)
  rcases of_bind_error hcause with hcause | ⟨data, -, hcause⟩
  · exact loadFailure_readEntries hstands hcause
  · rcases of_bind_error hcause with hcause | ⟨_, -, hcause⟩
    · exact loadFailure_check hcause
    · cases hcause

theorem loadFailure_ownLayer (h : (ownLayer s root custom).outcome = .error e) : LoadFailure e := by
  unfold ownLayer at h
  cases custom with
  | some path =>
    dsimp only at h
    rw [outcome_bind] at h
    rcases of_bind_error h with h | ⟨found, hfound, h⟩
    · exact loadFailure_stands h
    · cases found with
      | true => exact loadFailure_chosenLayer hfound h
      | false => cases h; exact loadFailure_config _
  | none =>
    dsimp only at h
    rw [outcome_bind] at h
    rcases of_bind_error h with h | ⟨file, hfile, h⟩
    · exact loadFailure_firstStanding h
    · cases file with
      | some path => exact loadFailure_chosenLayer (stands_of_firstStanding hfile) h
      | none => cases h

theorem outcome_overrideLayer (data : Mapping Value) :
    ∃ layers, (overrideLayer (.mapping data)).outcome = .ok layers := by
  cases data with
  | nil => exact ⟨_, rfl⟩
  | cons entry rest => exact ⟨_, rfl⟩

theorem loadFailure_checkProbeName {v : Value} (h : checkProbeName v = .error e) : LoadFailure e := by
  unfold checkProbeName at h
  split at h
  · cases h
  · rcases of_bind_error h with h | ⟨shown, -, h⟩
    · obtain ⟨cause, -, rfl⟩ := of_mapError_error h
      exact Or.inr (.conversion cause)
    · cases h; exact loadFailure_config _

/-- An integer beyond the range of numbers is the one misuse of a number. -/
theorem toFloat_eq_fault {v : Value} {f : Fault} :
    v.toFloat = .error (.fault f) ↔ f = .overflow ∧ ∃ i, v = .int i ∧ (Binary64.ofInt i).isFinite = false := by
  constructor
  · intro h
    unfold Value.toFloat at h
    split at h
    · cases h
    · rename_i i
      dsimp only at h
      split at h
      · cases h
      · rename_i hrange
        cases h
        exact ⟨rfl, i, rfl, Bool.eq_false_iff.2 hrange⟩
    · cases h
    · split at h <;> cases h
    · split at h <;> cases h
    · cases h
  · rintro ⟨rfl, i, rfl, hrange⟩
    simp [Value.toFloat, hrange]

theorem loadFailure_checkNumber {v : Value} (h : checkNumber v = .error e) : LoadFailure e := by
  unfold checkNumber at h
  split at h
  · cases h
  · rename_i f hfault
    cases h
    rw [(toFloat_eq_fault.1 hfault).1]
    exact Or.inr .overflow
  · cases h; exact loadFailure_config _

theorem loadFailure_ofMapping {data : Mapping Value} (h : ofMapping data = .error e) : LoadFailure e := by
  rcases of_bind_error h with h | ⟨_, -, h⟩
  · exact loadFailure_checkProbeName h
  · rcases of_bind_error h with h | ⟨_, -, h⟩
    · exact loadFailure_checkNumber h
    · rcases of_bind_error h with h | ⟨_, -, h⟩
      · exact loadFailure_checkNumber h
      · cases h

/-- **How loading fails.** Loading with overrides in a mapping refuses the settings, or stops at one of the few things
that are not dealt with. -/
theorem load_error {override : Mapping Value} (h : (load s root custom (.mapping override)).outcome = .error e) :
    LoadFailure e := by
  obtain ⟨overrideLayers, hoverride⟩ := outcome_overrideLayer override
  rw [outcome_load] at h
  rcases of_bind_error h with h | ⟨layers, -, h⟩
  · rcases of_bind_error h with h | ⟨globalPath, -, h⟩
    · exact loadFailure_globalFile h
    · rcases of_bind_error h with h | ⟨own, -, h⟩
      · exact loadFailure_ownLayer h
      · rw [hoverride] at h
        cases h
  · rcases of_bind_error h with h | ⟨config, -, h⟩
    · exact loadFailure_ofMapping h
    · cases h

end Config

end ScriptCoverage
