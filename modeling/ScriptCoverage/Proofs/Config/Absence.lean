import ScriptCoverage.Proofs.Config.Precedence
import ScriptCoverage.Proofs.Config.Refusal

/-!
# A global file that cannot be loaded

A settings file is loaded in stages, and each of them can fail: `Config.Unloadable` names the stage, and
`Config.unloadable_iff` says that there are no others. Of the file of a project such a failure is the outcome. Of the
global file it is not: the layer is missing then, and the layers above it come to what they come to without it
(`Config.load_eq_without_global`). What remains to be seen is that the other layers do not depend on the global file,
and they only look at the paths where the file of the project may stand (`Config.ownLayer_congr`).
-/

namespace ScriptCoverage.Config

open ScriptCoverage.Loading

variable {s s' : Surroundings} {root path : Path} {custom : Option Path} {overrides : Value} {label : String}

/-! ## The stages at which loading a file fails -/

/-- A settings file that cannot be loaded: it cannot be opened, as a directory cannot; its bytes are no text; the YAML
library raises an exception, of whatever kind; the document is no mapping; or the check of its entries stops. -/
inductive Unloadable (s : Surroundings) (path : Path) : Prop where
  | unopened {e : Failure} (opening : Failure.ofOpening path (s.files.read s.directory path) = .error e)
  | undecodable {bytes : List UInt8} {e : DecodeError}
      (opening : Failure.ofOpening path (s.files.read s.directory path) = .ok bytes)
      (decoding : readText bytes = .error e)
  | unread {bytes : List UInt8} {text : Text} {e : YamlError}
      (opening : Failure.ofOpening path (s.files.read s.directory path) = .ok bytes)
      (decoding : readText bytes = .ok text) (reading : s.yaml.read text = .error e)
  | noMapping {v : Value} (reading : readDocument s path = .ok v) (notNull : v ≠ .null)
      (noEntries : v.entries? = none)
  | unchecked {data : Mapping Value} {e : ConversionError} (entries : (readEntries s path).outcome = .ok data)
      (stops : (validate path.toString (.mapping data)).run.result = .error e)

theorem readDocument_eq_error {e : Failure} (h : readDocument s path = .error e) : Unloadable s path := by
  rcases of_bind_error h with hbytes | ⟨bytes, hbytes, h⟩
  · exact .unopened hbytes
  · rcases of_bind_error h with htext | ⟨text, htext, hdocument⟩
    · obtain ⟨cause, hcause, -⟩ := of_mapError_error htext
      exact .undecodable hbytes hcause
    · obtain ⟨cause, hcause, -⟩ := of_mapError_error hdocument
      exact .unread hbytes (of_mapError_ok htext) hcause

/-- What is loaded has come through all stages. -/
theorem Unloadable.not_loaded (h : Unloadable s path) (label : String) (layer : Layer) :
    (readLayer s label path).outcome ≠ .ok layer := by
  intro hlayer
  rw [outcome_readLayer] at hlayer
  obtain ⟨data, hdata, hlayer⟩ := of_bind_ok hlayer
  obtain ⟨_, hcheck, -⟩ := of_bind_ok hlayer
  have hentries := hdata
  rw [outcome_readEntries] at hentries
  obtain ⟨v, hv, hentries⟩ := of_bind_ok hentries
  obtain ⟨bytes, text, hbytes, htext, hread⟩ := of_readDocument_ok hv
  cases h with
  | unopened opening =>
    rw [hbytes] at opening
    cases opening
  | undecodable opening decoding =>
    obtain rfl := Except.ok.inj (hbytes.symm.trans opening)
    rw [htext] at decoding
    cases decoding
  | unread opening decoding reading =>
    obtain rfl := Except.ok.inj (hbytes.symm.trans opening)
    obtain rfl := Except.ok.inj (htext.symm.trans decoding)
    rw [hread] at reading
    cases reading
  | noMapping reading notNull noEntries =>
    obtain rfl := Except.ok.inj (hv.symm.trans reading)
    split at hentries
    · exact notNull rfl
    · cases noEntries
    · cases hentries
  | unchecked entries stops =>
    obtain rfl := Except.ok.inj (hdata.symm.trans entries)
    rw [outcome_check, stops] at hcheck
    cases hcheck

/-- **The stages are all.** A file that is not loaded has failed at one of them. -/
theorem unloadable_iff (label : String) : Unloadable s path ↔ ∃ e, (readLayer s label path).outcome = .error e := by
  constructor
  · intro h
    cases hlayer : (readLayer s label path).outcome with
    | error e => exact ⟨e, rfl⟩
    | ok layer => exact absurd hlayer (h.not_loaded label layer)
  · rintro ⟨e, h⟩
    rw [outcome_readLayer] at h
    rcases of_bind_error h with h | ⟨data, hdata, h⟩
    · rw [outcome_readEntries] at h
      rcases of_bind_error h with h | ⟨v, hv, h⟩
      · exact readDocument_eq_error h
      · split at h
        · cases h
        · cases h
        · rename_i hnull hentries
          refine .noMapping hv hnull ?_
          cases v with
          | mapping entries => exact absurd rfl (hentries entries)
          | _ => rfl
    · rcases of_bind_error h with h | ⟨_, -, h⟩
      · rw [outcome_check] at h
        split at h
        · cases h
        · rename_i cause hcause
          exact .unchecked hdata hcause
      · cases h

/-! ## The layers above -/

/-- What the layers above the global one come to. -/
def aboveGlobal (s : Surroundings) (root : Path) (custom : Option Path) (overrides : Value) :
    Except Failure Config := do
  let own ← (ownLayer s root custom).outcome
  let override ← (overrideLayer overrides).outcome
  ofLayers (own ++ override)

theorem outcome_load_of_no_global {globalPath : Option Path} (hfile : globalFile s = .ok globalPath)
    (hlayer : (globalLayer s globalPath).result = []) (root : Path) (custom : Option Path) (overrides : Value) :
    (load s root custom overrides).outcome = aboveGlobal s root custom overrides := by
  rw [outcome_load, layers, aboveGlobal, hfile]
  simp only [bind, Except.bind, hlayer, List.nil_append]
  cases (ownLayer s root custom).outcome with
  | error e => rfl
  | ok own => cases (overrideLayer overrides).outcome <;> rfl

/-- The paths at which the file of a project may stand, or the one that is used in its place. -/
def ownPaths (root : Path) : Option Path → List Path
  | some path => [path]
  | none => projectNames.map root.child

/-- The same stands at a path in two surroundings: nothing, or what is read in the same way. -/
structure SameAt (s s' : Surroundings) (path : Path) : Prop where
  stands : stands s' path = stands s path
  read : Config.stands s path = .ok true → s'.files.read s'.directory path = s.files.read s.directory path

/-- `s'` is like `s`, and the same library reads it, but there is no global file. -/
structure WithoutGlobal (s s' : Surroundings) (root : Path) (custom : Option Path) : Prop where
  environment : s'.environment = s.environment
  yaml : s'.yaml = s.yaml
  absent : globalFile s' = .ok none
  own : ∀ path ∈ ownPaths root custom, SameAt s s' path

theorem readLayer_congr (henv : s'.environment = s.environment) (hyaml : s'.yaml = s.yaml) (h : SameAt s s' path)
    (hstands : stands s path = .ok true) : readLayer s' label path = readLayer s label path := by
  have hdocument : readDocument s' path = readDocument s path := by
    rw [readDocument, readDocument, h.read hstands, hyaml]
  rw [readLayer, readLayer, readEntries, readEntries, hdocument, henv]

theorem firstStanding_congr {paths : List Path} (h : ∀ path ∈ paths, SameAt s s' path) :
    firstStanding s' paths = firstStanding s paths := by
  induction paths with
  | nil => rfl
  | cons path rest ih =>
    obtain ⟨hpath, hrest⟩ := List.forall_mem_cons.1 h
    rw [firstStanding, firstStanding, hpath.stands, ih hrest]

theorem mem_of_firstStanding {paths : List Path} (h : firstStanding s paths = .ok (some path)) : path ∈ paths := by
  induction paths with
  | nil => cases h
  | cons first rest ih =>
    obtain ⟨found, -, h⟩ := of_bind_ok h
    cases found with
    | true => cases h; exact List.mem_cons_self
    | false => exact List.mem_cons_of_mem first (ih h)

/-- The layer of the project hangs on the paths where its file may stand, and on nothing else. -/
theorem ownLayer_congr (henv : s'.environment = s.environment) (hyaml : s'.yaml = s.yaml)
    (h : ∀ path ∈ ownPaths root custom, SameAt s s' path) : ownLayer s' root custom = ownLayer s root custom := by
  have hchosen : ∀ label path, path ∈ ownPaths root custom → stands s path = .ok true →
      chosenLayer s' label path = chosenLayer s label path := by
    intro label path hpath hstands
    rw [chosenLayer, chosenLayer, readLayer_congr henv hyaml (h path hpath) hstands]
  cases custom with
  | some path =>
    have hpath : path ∈ ownPaths root (some path) := List.mem_singleton_self path
    simp only [ownLayer, (h path hpath).stands]
    apply ofExcept_bind_congr
    intro found hfound
    cases found with
    | false => simp only [Bool.false_eq_true, if_false]
    | true => simp only [if_true, hchosen "custom" path hpath hfound]
  | none =>
    have hfirst : firstStanding s' (projectNames.map root.child) = firstStanding s (projectNames.map root.child) :=
      firstStanding_congr h
    simp only [ownLayer, projectFile, hfirst]
    apply ofExcept_bind_congr
    intro file hfile
    cases file with
    | none => rfl
    | some path => exact hchosen "project" path (mem_of_firstStanding hfile) (stands_of_firstStanding hfile)

/-! ## Loading without a global file -/

/-- **A global file that cannot be loaded counts as absent.** At whatever stage it fails, loading comes to what the
layers above come to, with the same sources, or to the failure of theirs; and it comes to the same where there is no
global file, but otherwise the same environment, the same library and the same file of the project or in its place. -/
theorem load_eq_without_global (hfile : globalFile s = .ok (some path)) (hfails : Unloadable s path) (root : Path)
    (custom : Option Path) (overrides : Value) :
    (load s root custom overrides).outcome = aboveGlobal s root custom overrides ∧
    ∀ s', WithoutGlobal s s' root custom →
      (load s root custom overrides).outcome = (load s' root custom overrides).outcome := by
  obtain ⟨e, herror⟩ := (unloadable_iff "global").1 hfails
  have hlayer : (globalLayer s (some path)).result = [] := by
    rw [result_globalLayer, herror]
    rfl
  have habove := outcome_load_of_no_global hfile hlayer root custom overrides
  refine ⟨habove, fun s' h => ?_⟩
  rw [habove, outcome_load_of_no_global h.absent rfl root custom overrides, aboveGlobal, aboveGlobal,
    ownLayer_congr h.environment h.yaml h.own]

/-- A home whose settings file is no document, and a project with settings. -/
def broken : Surroundings := twoFiles "output: [unclosed" "output: \x7bformat: json\x7d"

/-- The same without the file in the home. -/
def mended : Surroundings :=
  { broken with files := { nodes := broken.files.nodes.filter (·.1 ≠ ["home", "config.yml"]) } }

theorem load_eq_without_global_broken :
    globalFile broken = .ok (some homeFile) ∧ Unloadable broken homeFile ∧
    WithoutGlobal broken mended broken.directory none ∧
    ∃ config, config.sources = ["project:/work/.tailwindcov.yml"] ∧
      (load broken broken.directory none (.mapping [])).outcome = .ok config ∧
      (load mended broken.directory none (.mapping [])).outcome = .ok config := by
  have hfile : globalFile broken = .ok (some homeFile) := globalFile_twoFiles _ _
  have hfails : Unloadable broken homeFile := by
    have hnone : (readLayer broken "global" homeFile).outcome.toOption.isNone = true := by decide +kernel
    apply (unloadable_iff "global").2
    cases hlayer : (readLayer broken "global" homeFile).outcome with
    | error e => exact ⟨e, rfl⟩
    | ok layer =>
      rw [hlayer] at hnone
      cases hnone
  have hwithout : WithoutGlobal broken mended broken.directory none := by
    refine ⟨rfl, rfl, rfl, ?_⟩
    intro path hpath
    simp only [ownPaths, projectNames, List.map_cons, List.map_nil, List.mem_cons, List.not_mem_nil, or_false] at hpath
    rcases hpath with rfl | rfl | rfl | rfl
    · exact ⟨rfl, fun _ => rfl⟩
    · exact ⟨rfl, fun _ => rfl⟩
    · exact ⟨rfl, fun _ => rfl⟩
    · exact ⟨rfl, fun _ => rfl⟩
  obtain ⟨config, hload, hsources⟩ := exists_ok_of_any
    (show ((load broken broken.directory none (.mapping [])).outcome.toOption.any fun config =>
      config.sources == ["project:/work/.tailwindcov.yml"]) = true by decide +kernel)
  obtain ⟨-, hsame⟩ := load_eq_without_global hfile hfails broken.directory none (.mapping [])
  exact ⟨hfile, hfails, hwithout, config, beq_iff_eq.1 hsources, hload, (hsame mended hwithout).symm.trans hload⟩

end ScriptCoverage.Config
