import ScriptCoverage.Config.Load
import ScriptCoverage.Proofs.Value.Mapping

/-!
# What loading comes to

Loading logs as it goes, and what it comes to does not depend on the log: `Loading.outcome` drops it, and
`Config.outcome_load` says what is left, which is to read the layers and to take the settings from them. If the YAML
library gives no two entries of a mapping one key, the entries of a settings file are under different keys, on all
levels (`Config.keyed_of_readEntries`).
-/

namespace ScriptCoverage

/-- What a computation that logs and may fail comes to does not depend on its log. -/
theorem Logged.result_run_bind {ε α β : Type} (m : ExceptT ε Logged α) (f : α → ExceptT ε Logged β) :
    (m >>= f).run.result = m.run.result >>= fun a => (f a).run.result := by
  simp only [ExceptT.run, bind, ExceptT.bind, ExceptT.mk]
  rcases m with ⟨result | a, log⟩
  · rfl
  · rfl

namespace Loading

variable {α β : Type}

/-- The outcome of a computation, without what it logged. -/
def outcome (m : Loading α) : Except Failure α := m.run.result

@[simp] theorem outcome_ofExcept (result : Except Failure α) : outcome (ofExcept result) = result := rfl

@[simp] theorem outcome_lift (m : Logged α) : outcome (ExceptT.lift m) = .ok m.result := rfl

theorem outcome_bind (m : Loading α) (f : α → Loading β) : outcome (m >>= f) = m.outcome >>= fun a => outcome (f a) :=
  Logged.result_run_bind m f

@[simp] theorem outcome_adapt (m : Loading α) (f : Failure → Failure) :
    outcome (ExceptT.adapt f m) = m.outcome.mapError f := by
  rcases m with ⟨result | a, log⟩
  · rfl
  · rfl

@[simp] theorem outcome_map (m : Loading α) (f : α → β) : outcome (f <$> m) = f <$> m.outcome := by
  rcases m with ⟨result | a, log⟩
  · rfl
  · rfl

theorem ofExcept_bind_congr {x : Except Failure α} {f g : α → Loading β} (h : ∀ a, x = .ok a → f a = g a) :
    Loading.ofExcept x >>= f = Loading.ofExcept x >>= g := by
  cases x with
  | error e => rfl
  | ok a =>
    calc Loading.ofExcept (.ok a) >>= f = f a := rfl
      _ = g a := h a rfl
      _ = Loading.ofExcept (.ok a) >>= g := rfl

theorem of_bind_ok {ε : Type} {x : Except ε α} {f : α → Except ε β} {b : β} (h : x >>= f = .ok b) :
    ∃ a, x = .ok a ∧ f a = .ok b := by
  cases x with
  | error e => cases h
  | ok a => exact ⟨a, rfl, h⟩

theorem of_bind_error {ε : Type} {x : Except ε α} {f : α → Except ε β} {e : ε} (h : x >>= f = .error e) :
    x = .error e ∨ ∃ a, x = .ok a ∧ f a = .error e := by
  cases x with
  | error e' => cases h; exact Or.inl rfl
  | ok a => exact Or.inr ⟨a, rfl, h⟩

theorem of_map_ok {ε : Type} {x : Except ε α} {f : α → β} {b : β} (h : f <$> x = .ok b) : ∃ a, x = .ok a ∧ f a = b := by
  cases x with
  | error e => cases h
  | ok a => cases h; exact ⟨a, rfl, rfl⟩

theorem of_map_error {ε : Type} {x : Except ε α} {f : α → β} {e : ε} (h : f <$> x = .error e) : x = .error e := by
  cases x with
  | error e' => cases h; rfl
  | ok a => cases h

theorem of_mapError_ok {ε ε' : Type} {x : Except ε α} {f : ε → ε'} {a : α} (h : x.mapError f = .ok a) : x = .ok a := by
  cases x with
  | error e => cases h
  | ok b => cases h; rfl

theorem of_mapError_error {ε ε' : Type} {x : Except ε α} {f : ε → ε'} {e : ε'} (h : x.mapError f = .error e) :
    ∃ cause, x = .error cause ∧ f cause = e := by
  cases x with
  | error cause => cases h; exact ⟨cause, rfl, rfl⟩
  | ok b => cases h

theorem exists_ok_of_any {ε : Type} {x : Except ε α} {P : α → Bool} (h : x.toOption.any P = true) :
    ∃ a, x = .ok a ∧ P a = true := by
  cases x with
  | error e => cases h
  | ok a => exact ⟨a, rfl, h⟩

end Loading

open ScriptCoverage.Loading

/-! ## Entries under different keys -/

/-- Entries of which no two are for one key, nor two of a section. -/
structure Mapping.WellKeyed (data : Mapping Value) : Prop where
  distinct : data.Distinct
  sections : ∀ entry ∈ data, ∀ entries, entry.2 = .mapping entries → Mapping.Distinct entries

theorem Value.Keyed.wellKeyed {data : Mapping Value} (h : Value.Keyed (.mapping data)) : data.WellKeyed where
  distinct := h.of_mapping.1
  sections := by
    rintro ⟨key, value⟩ hentry entries rfl
    exact (h.of_mapping.2 _ hentry).of_mapping.1

/-- The mappings in what a library reads have one entry for each key. -/
def YamlLibrary.Keyed (yaml : YamlLibrary) : Prop := ∀ text v, yaml.read text = .ok v → v.Keyed

/-- Expansion changes values, and mappings only within. -/
theorem map_expandEntries (env : Environment) (entries : List (Scalar × Value)) :
    (expandEntries env entries).result = entries.map fun entry => (entry.1, (expandValue env entry.2).result) := by
  induction entries with
  | nil => rw [expandEntries]; rfl
  | cons first rest ih =>
    obtain ⟨key, value⟩ := first
    rw [expandEntries, Logged.result_bind, Logged.result_bind, Logged.result_pure, ih]
    rfl

theorem distinct_expandEntries (env : Environment) {entries : Mapping Value} (h : entries.Distinct) :
    Mapping.Distinct (expandEntries env entries).result := by
  unfold Mapping.Distinct at *
  rw [map_expandEntries, List.map_map]
  exact h

theorem keyed_expandValue (env : Environment) {v : Value} (h : v.Keyed) : (expandValue env v).result.Keyed := by
  induction h with
  | mapping distinct values ih =>
    rw [expandValue]
    refine .mapping (distinct_expandEntries env distinct) fun entry hentry => ?_
    rw [map_expandEntries] at hentry
    obtain ⟨before, hbefore, rfl⟩ := List.mem_map.1 hentry
    exact ih before hbefore
  | plain noEntries =>
    unfold expandValue
    split
    · exact .plain rfl
    · exact .plain rfl
    · cases noEntries
    · exact .plain noEntries

namespace Config

variable {s : Surroundings} {root path : Path} {custom : Option Path} {overrides : Value}

/-- The layers that are found, the least important first. -/
def layers (s : Surroundings) (root : Path) (custom : Option Path) (overrides : Value) : Except Failure (List Layer) := do
  let globalPath ← globalFile s
  let own ← (ownLayer s root custom).outcome
  let override ← (overrideLayer overrides).outcome
  return (globalLayer s globalPath).result ++ own ++ override

/-- **Loading** is to read the layers and to take the settings from them. -/
theorem outcome_load : (load s root custom overrides).outcome = layers s root custom overrides >>= ofLayers := by
  unfold load layers
  simp only [outcome_bind, outcome_ofExcept, outcome_lift]
  cases globalFile s with
  | error e => rfl
  | ok globalPath =>
    cases (ownLayer s root custom).outcome with
    | error e => rfl
    | ok own =>
      cases (overrideLayer overrides).outcome with
      | error e => rfl
      | ok override =>
        simp only [bind, Except.bind, pure, Except.pure]
        cases ofLayers ((globalLayer s globalPath).result ++ own ++ override) with
        | error e => rfl
        | ok config => rfl

theorem ofMapping_nil : ofMapping [] = .ok {} := by
  have hname : checkProbeName (.text Probe.defaultName) = .ok Probe.defaultName := by
    have hvalid : Probe.isName Probe.defaultName = true := by decide +kernel
    simp only [checkProbeName, probeName?, hvalid, if_true]
  have hnumber (x : Binary64) : checkNumber (.float x) = .ok x := rfl
  simp only [ofMapping, sectionOf, Mapping.get?, Mapping.find?_nil, Option.getD_none, hname, hnumber, Mapping.without]
  rfl

/-- Without any settings everything is as it is by default. -/
theorem ofLayers_nil : ofLayers [] = .ok {} := by
  have hdata : mergeLayers [] = [] := rfl
  simp only [ofLayers, hdata, ofMapping_nil, bind, Except.bind, pure, Except.pure, List.map_nil]

/-- A document comes from bytes that are a text. -/
theorem of_readDocument_ok {v : Value} (h : readDocument s path = .ok v) : ∃ bytes text,
    Failure.ofOpening path (s.files.read s.directory path) = .ok bytes ∧ readText bytes = .ok text ∧
      s.yaml.read text = .ok v := by
  obtain ⟨bytes, hbytes, h⟩ := of_bind_ok h
  obtain ⟨text, htext, h⟩ := of_bind_ok h
  exact ⟨bytes, text, hbytes, of_mapError_ok htext, of_mapError_ok h⟩

/-- Reading entries comes to reading a document that is a mapping or empty. -/
theorem outcome_readEntries : (readEntries s path).outcome = readDocument s path >>= fun v => match v with
    | .null => .ok []
    | .mapping entries => .ok (expandEntries s.environment entries).result
    | v => .error (.config (.noMapping v.kindName)) := by
  unfold readEntries
  rw [outcome_bind, outcome_ofExcept]
  congr 1
  funext v
  cases v with
  | scalar s => cases s <;> rfl
  | _ => rfl

/-- A check only counts if it stops. -/
theorem outcome_check (path : Path) (data : Mapping Value) :
    (check path data).outcome = match (validate path.toString (.mapping data)).run.result with
      | .ok _ => .ok ()
      | .error e => .error (.conversion e) := by
  unfold check outcome
  rw [ExceptT.run_mk, Logged.result_bind]
  cases (validate path.toString (.mapping data)).run.result <;> rfl

theorem outcome_readLayer {label : String} : (readLayer s label path).outcome = (do
    let data ← (readEntries s path).outcome
    (check path data).outcome
    return ⟨s!"{label}:{path}", data⟩) := by
  unfold readLayer
  simp only [outcome_bind, outcome_lift]
  rfl

theorem outcome_chosenLayer {label : String} :
    (chosenLayer s label path).outcome = (fun layer => [layer]) <$> (readLayer s label path).outcome.mapError (blame path) := by
  unfold chosenLayer
  rw [outcome_map, outcome_adapt]

/-- The entries of a settings file are under different keys, on all levels. -/
theorem keyed_of_readEntries {data : Mapping Value} (hyaml : s.yaml.Keyed)
    (h : (readEntries s path).outcome = .ok data) : Value.Keyed (.mapping data) := by
  rw [outcome_readEntries] at h
  obtain ⟨v, hv, h⟩ := of_bind_ok h
  obtain ⟨bytes, text, -, -, hread⟩ := of_readDocument_ok hv
  split at h
  · cases h
    exact .mapping List.nodup_nil (by simp)
  · rename_i entries
    cases h
    have hexpanded := keyed_expandValue s.environment (hyaml text _ hread)
    rw [expandValue] at hexpanded
    exact hexpanded
  · cases h

theorem wellKeyed_of_readEntries {data : Mapping Value} (hyaml : s.yaml.Keyed)
    (h : (readEntries s path).outcome = .ok data) : data.WellKeyed :=
  (keyed_of_readEntries hyaml h).wellKeyed

end Config

end ScriptCoverage
