import ScriptCoverage.Proofs.Config.Merging
import ScriptCoverage.Proofs.Config.Setting
import ScriptCoverage.Proofs.Yaml.Library

/-!
# Which layer a setting comes from

Layers are merged from the least important one upwards, and a setting is read from what comes of it. So a setting is
taken from the most important layer that gives it (`Config.winning?`), with one exception: a layer that has something
else than a mapping in the place of a section takes the section away from the layers below it. The induction over the
layers is `sectionOf_merged`; `Config.load_precedence` is the result for files and overrides.
-/

namespace ScriptCoverage

open ScriptCoverage.Loading

namespace Config

/-! ## Layers -/

/-- The settings, each by its section and key. Every entry of the section `execution` is one. -/
inductive IsSetting : String → Scalar → Prop where
  | probeName : IsSetting "instrumentation" (.text "probe_name")
  | execution (key : Scalar) : IsSetting "execution" key
  | format : IsSetting "output" (.text "format")
  | threshold : IsSetting "coverage" (.text "threshold")
  | timeout : IsSetting "fetch" (.text "timeout")

/-- Whether a layer has a mapping in the place of a section, or nothing, so that the layers below it are heard. -/
def sharesSection (name : String) (data : Mapping Value) : Bool :=
  match data.get? name with
  | none | some (.mapping _) => true
  | some _ => false

/-- A setting in layers, the most important one first: its value in the first layer that gives one, among those above
the first layer that has no mapping in the place of the section. -/
def winning? (name : String) (layers : List (Mapping Value)) (key : Scalar) : Option Value :=
  (layers.takeWhile (sharesSection name)).findSome? fun data => (sectionOf data name).find? key

/-- A setting is no mapping, if it is given. -/
def PlainAt (name : String) (key : Scalar) (data : Mapping Value) : Prop :=
  ∀ v, (sectionOf data name).find? key = some v → ∀ entries, v ≠ .mapping entries

variable {name : String} {key : Scalar} {data base : Mapping Value} {lower : List (Mapping Value)}

/-- A setting is what stands under its key in what stands in the place of its section. -/
theorem find?_sectionOf (data : Mapping Value) (name : String) (key : Scalar) :
    (sectionOf data name).find? key = (data.get? name).bind (Value.under? key) := by
  unfold sectionOf
  rcases data.get? name with _ | v
  · rfl
  · cases v <;> rfl

theorem sharesSection_eq (name : String) (data : Mapping Value) :
    sharesSection name data = (data.get? name).all fun v => v.entries?.isSome := by
  unfold sharesSection
  rcases data.get? name with _ | v
  · rfl
  · cases v <;> rfl

/-- A section laid over what was there: its settings win, and those of a section below show through. -/
theorem sectionOf_merge (hkeys : data.WellKeyed) (hplain : PlainAt name key data) :
    (sectionOf (mergeMappings base data) name).find? key =
      if sharesSection name data then ((sectionOf data name).find? key).or ((sectionOf base name).find? key)
      else none := by
  have hmerge := find?_mergeEntries hkeys.distinct base (.text name)
  unfold PlainAt at hplain
  simp only [find?_sectionOf, sharesSection_eq, Mapping.get?, mergeMappings] at hplain ⊢
  rw [hmerge]
  rcases hdata : data.find? (.text name) with _ | v
  · -- the layer does not have the section
    rfl
  · rw [hdata] at hplain
    cases v with
    | mapping entries =>
      obtain ⟨k, hmem, -⟩ := Mapping.mem_of_find? hdata
      have hunder := Value.under?_merge (hkeys.sections _ hmem entries rfl) (base.find? (.text name)) key
      dsimp only
      rw [Option.bind_some, hunder]
      cases hfind : Mapping.find? key entries with
      | none => simp [Value.under?, Value.entries?, hfind]
      | some u => simp [Value.under?, Value.entries?, hfind, mergeValue_of_plain _ (hplain u hfind)]
    | _ =>
      -- something else takes the place of the section
      dsimp only
      rw [mergeValue_of_plain _ (by simp)]
      rfl

/-- What a layer does not say about a setting is left to those below, unless it takes the section away. -/
theorem winning?_cons : winning? name (data :: lower) key =
    if sharesSection name data then ((sectionOf data name).find? key).or (winning? name lower key) else none := by
  unfold winning?
  by_cases h : sharesSection name data = true
  · rw [List.takeWhile_cons_of_pos h, if_pos h, List.findSome?_cons]
    cases (sectionOf data name).find? key <;> rfl
  · rw [List.takeWhile_cons_of_neg h, if_neg h]
    rfl

/-- **Merging layers.** The layers come with the most important one first; the induction is on them from the least
important one up. -/
theorem sectionOf_merged {layers : List (Mapping Value)} (hkeys : ∀ data ∈ layers, data.WellKeyed)
    (hplain : ∀ data ∈ layers, PlainAt name key data) :
    (sectionOf (layers.foldr (fun data merged => mergeMappings merged data) []) name).find? key =
      winning? name layers key := by
  induction layers with
  | nil => rfl
  | cons data lower ih =>
    obtain ⟨hdata, hkeys⟩ := List.forall_mem_cons.1 hkeys
    obtain ⟨hplaindata, hplain⟩ := List.forall_mem_cons.1 hplain
    rw [List.foldr_cons, sectionOf_merge hdata hplaindata, ih hkeys hplain, winning?_cons]

/-! ## Settings -/

/-- The settings are those of layers, the most important one first. What no layer gives has its default, and an option
of the sandbox that no layer gives is missing. -/
structure TakenFrom (config : Config) (layers : List (Mapping Value)) : Prop where
  probeName : (winning? "instrumentation" layers (.text "probe_name")).getD (.text Probe.defaultName) =
    .text config.probeName
  sandbox : (winning? "execution" layers (.text "sandbox")).getD (.text Plugins.defaultSandbox) = config.sandbox
  options : ∀ key, key.key ≠ .text "sandbox" → config.options.find? key = winning? "execution" layers key
  format : (winning? "output" layers (.text "format")).getD (.text ReportFormat.text.name) = config.format
  threshold : ((winning? "coverage" layers (.text "threshold")).getD (.float .zero)).toFloat = .ok config.threshold
  timeout : ((winning? "fetch" layers (.text "timeout")).getD (.float (Binary64.ofInt 30))).toFloat = .ok config.timeout

/-- Settings are read from the merged layers. -/
theorem takenFrom_of_ofMapping {config : Config} {layers : List (Mapping Value)} (h : ofMapping data = .ok config)
    (hlook : ∀ name key, IsSetting name key → (sectionOf data name).find? key = winning? name layers key) :
    config.TakenFrom layers := by
  have hread := ofMapping_eq_ok.1 h
  constructor
  case probeName =>
    rw [← hlook _ _ .probeName]
    exact (probeName?_eq_some.1 hread.probeName).1
  case sandbox => rw [← hlook _ _ (.execution _), hread.sandbox]; rfl
  case options =>
    intro key hkey
    rw [hread.options, Mapping.find?_without, if_neg hkey, hlook _ _ (.execution key)]
  case format => rw [← hlook _ _ .format, hread.format]; rfl
  case threshold =>
    rw [← hlook _ _ .threshold]
    exact hread.threshold
  case timeout =>
    rw [← hlook _ _ .timeout]
    exact hread.timeout

/-! ## Files and overrides -/

variable {s : Surroundings} {root : Path} {custom : Option Path}

/-- The entries of the global file. One that is missing or that cannot be read has none; of entries whose check stops
nothing is said. -/
inductive GlobalEntries (s : Surroundings) : Mapping Value → Prop where
  | missing (file : globalFile s = .ok none) : GlobalEntries s []
  | unreadable {path : Path} {e : Failure} (file : globalFile s = .ok (some path))
      (entries : (readEntries s path).outcome = .error e) : GlobalEntries s []
  | read {path : Path} {data : Mapping Value} (file : globalFile s = .ok (some path))
      (entries : (readEntries s path).outcome = .ok data) (checked : (check path data).outcome = .ok ()) :
      GlobalEntries s data

/-- The entries of the file of the project, or of the file that is used in its place. -/
inductive OwnEntries (s : Surroundings) (root : Path) : Option Path → Mapping Value → Prop where
  | missing (file : projectFile s root = .ok none) : OwnEntries s root none []
  | project {path : Path} {data : Mapping Value} (file : projectFile s root = .ok (some path))
      (entries : (readEntries s path).outcome = .ok data) : OwnEntries s root none data
  | custom {path : Path} {data : Mapping Value} (file : stands s path = .ok true)
      (entries : (readEntries s path).outcome = .ok data) : OwnEntries s root (some path) data

theorem GlobalEntries.wellKeyed (hyaml : s.yaml.Keyed) (h : GlobalEntries s data) : data.WellKeyed := by
  cases h with
  | missing => exact ⟨List.nodup_nil, by simp⟩
  | unreadable => exact ⟨List.nodup_nil, by simp⟩
  | read _ entries => exact wellKeyed_of_readEntries hyaml entries

theorem OwnEntries.wellKeyed (hyaml : s.yaml.Keyed) (h : OwnEntries s root custom data) : data.WellKeyed := by
  cases h with
  | missing => exact ⟨List.nodup_nil, by simp⟩
  | project _ entries => exact wellKeyed_of_readEntries hyaml entries
  | custom _ entries => exact wellKeyed_of_readEntries hyaml entries

/-- Merging layers comes to merging one mapping. -/
def StandFor (layers : List Layer) (data : Mapping Value) : Prop :=
  ∀ merged, layers.foldl (fun merged layer => mergeMappings merged layer.data) merged = mergeMappings merged data

theorem standFor_nil : StandFor [] [] := fun _ => rfl

theorem standFor_singleton (source : String) (data : Mapping Value) : StandFor [⟨source, data⟩] data := fun _ => rfl

theorem result_globalLayer (s : Surroundings) (path : Path) :
    (globalLayer s (some path)).result = (readLayer s "global" path).outcome.toOption.toList := by
  unfold globalLayer outcome
  rw [Logged.result_bind]
  generalize (readLayer s "global" path).run.result = result
  cases result <;> rfl

theorem GlobalEntries.standFor {path : Option Path} (h : GlobalEntries s data) (hpath : globalFile s = .ok path) :
    StandFor (globalLayer s path).result data := by
  cases h with
  | missing file =>
    rw [file] at hpath
    cases hpath
    exact standFor_nil
  | unreadable file entries =>
    rw [file] at hpath
    cases hpath
    rw [result_globalLayer, outcome_readLayer, entries]
    exact standFor_nil
  | read file entries checked =>
    rw [file] at hpath
    cases hpath
    rw [result_globalLayer, outcome_readLayer, entries]
    dsimp only [bind, Except.bind]
    rw [checked]
    exact standFor_singleton _ _

theorem exists_ownEntries {layers : List Layer} (h : (ownLayer s root custom).outcome = .ok layers) :
    ∃ data, OwnEntries s root custom data ∧ StandFor layers data := by
  have hchosen : ∀ {label path}, (chosenLayer s label path).outcome = .ok layers →
      ∃ data, (readEntries s path).outcome = .ok data ∧ StandFor layers data := by
    intro label path h
    rw [outcome_chosenLayer, outcome_readLayer] at h
    obtain ⟨layer, hlayer, rfl⟩ := of_map_ok h
    obtain ⟨data, hdata, hlayer⟩ := of_bind_ok (of_mapError_ok hlayer)
    obtain ⟨_, -, hlayer⟩ := of_bind_ok hlayer
    cases hlayer
    exact ⟨data, hdata, standFor_singleton _ _⟩
  unfold ownLayer at h
  cases custom with
  | some path =>
    dsimp only at h
    rw [outcome_bind] at h
    obtain ⟨found, hfound, h⟩ := of_bind_ok h
    cases found with
    | true =>
      obtain ⟨data, hdata, hstand⟩ := hchosen h
      exact ⟨data, .custom hfound hdata, hstand⟩
    | false => cases h
  | none =>
    dsimp only at h
    rw [outcome_bind] at h
    obtain ⟨file, hfile, h⟩ := of_bind_ok h
    cases file with
    | some path =>
      obtain ⟨data, hdata, hstand⟩ := hchosen h
      exact ⟨data, .project hfile hdata, hstand⟩
    | none =>
      cases h
      exact ⟨[], .missing hfile, standFor_nil⟩

theorem standFor_overrideLayer {layers : List Layer} {override : Mapping Value}
    (h : (overrideLayer (.mapping override)).outcome = .ok layers) : StandFor layers override := by
  cases override with
  | nil => cases h; exact standFor_nil
  | cons entry rest => cases h; exact standFor_singleton _ _

/-! ## A home and a project with a file each -/

/-- Whether the entries of all sections are no mappings. -/
def isFlat (data : Mapping Value) : Bool :=
  data.all fun (_, v) => (v.entries?.getD []).all fun (_, w) => w.entries?.isNone

theorem plainAt_of_isFlat (h : isFlat data = true) : PlainAt name key data := by
  intro v hv entries hmapping
  subst hmapping
  rw [find?_sectionOf] at hv
  obtain ⟨v, hsection, hunder⟩ := Option.bind_eq_some_iff.1 hv
  obtain ⟨inner, hinner, hfind⟩ := Option.bind_eq_some_iff.1 hunder
  obtain ⟨k, hmem, -⟩ := Mapping.mem_of_find? hsection
  obtain ⟨k', hmem', -⟩ := Mapping.mem_of_find? hfind
  have hflat := List.all_eq_true.1 h _ hmem
  dsimp only at hflat
  rw [hinner] at hflat
  cases List.all_eq_true.1 hflat _ hmem'

/-- A working directory and a home with a settings file each. -/
def twoFiles (home project : String) : Surroundings where
  environment := { bindings := [(Environment.homeVariable, "/home")] }
  files := { nodes := [(["home"], .directory), (["work"], .directory),
    (["home", "config.yml"], .file (encodeUtf8 home.toList)),
    (["work", ".tailwindcov.yml"], .file (encodeUtf8 project.toList))] }
  directory := Path.ofString "/work"
  yaml := Yaml.library

def homeFile : Path := Path.ofString "/home/config.yml"

def workFile : Path := Path.ofString "/work/.tailwindcov.yml"

theorem globalFile_twoFiles (home project : String) : globalFile (twoFiles home project) = .ok (some homeFile) := by
  rfl

theorem projectFile_twoFiles (home project : String) :
    projectFile (twoFiles home project) (twoFiles home project).directory = .ok (some workFile) := by
  rfl

theorem OwnEntries.of_twoFiles {home project : String}
    (h : OwnEntries (twoFiles home project) (twoFiles home project).directory none data) :
    (readEntries (twoFiles home project) workFile).outcome = .ok data := by
  cases h with
  | missing file => cases file
  | project file entries => cases file; exact entries

/-- The entries of both files, if they can be read and hold no mappings in their sections. -/
theorem exists_entries_twoFiles (home project : String) {P : Mapping Value → Mapping Value → Bool}
    (h : ((readEntries (twoFiles home project) homeFile).outcome.toOption.any fun global =>
      (check homeFile global).outcome.toOption.isSome && isFlat global &&
        (readEntries (twoFiles home project) workFile).outcome.toOption.any fun own => isFlat own && P global own) =
      true) :
    ∃ global own, GlobalEntries (twoFiles home project) global ∧
      OwnEntries (twoFiles home project) (twoFiles home project).directory none own ∧
      isFlat global = true ∧ isFlat own = true ∧ P global own = true := by
  obtain ⟨global, hglobal, h⟩ := exists_ok_of_any h
  simp only [Bool.and_eq_true] at h
  obtain ⟨⟨hcheck, hflat⟩, h⟩ := h
  obtain ⟨own, hown, h⟩ := exists_ok_of_any h
  rw [Bool.and_eq_true] at h
  cases hchecked : (check homeFile global).outcome with
  | error e => rw [hchecked] at hcheck; cases hcheck
  | ok _ =>
    exact ⟨global, own, .read (globalFile_twoFiles home project) hglobal hchecked,
      .project (projectFile_twoFiles home project) hown, hflat, h.1, h.2⟩

/-! ## Precedence -/

/-- **Precedence.** Every setting of a configuration that was loaded is that of the most important layer that gives
it, in the order of overrides, the file of the project or in its place, and the global file; among these count the
layers above the first one that has something else than a mapping in the place of the section. The YAML library may be
any that gives no two entries of a mapping one key. -/
theorem load_precedence {config : Config} {override : Mapping Value} (hyaml : s.yaml.Keyed)
    (hoverride : override.WellKeyed) (h : (load s root custom (.mapping override)).outcome = .ok config) :
    ∃ own, OwnEntries s root custom own ∧ ∀ global, GlobalEntries s global →
      (∀ name key, IsSetting name key → ∀ data ∈ [override, own, global], PlainAt name key data) →
      config.TakenFrom [override, own, global] := by
  rw [outcome_load] at h
  obtain ⟨layers, hlayers, h⟩ := of_bind_ok h
  obtain ⟨globalPath, hglobalPath, hlayers⟩ := of_bind_ok hlayers
  obtain ⟨ownLayers, hown, hlayers⟩ := of_bind_ok hlayers
  obtain ⟨overrideLayers, hoverrideLayers, hlayers⟩ := of_bind_ok hlayers
  cases hlayers
  obtain ⟨own, hentries, hstandOwn⟩ := exists_ownEntries hown
  refine ⟨own, hentries, fun global hglobal hplain => ?_⟩
  obtain ⟨taken, htaken, h⟩ := of_bind_ok h
  have hmerged : mergeLayers ((globalLayer s globalPath).result ++ ownLayers ++ overrideLayers) =
      [override, own, global].foldr (fun data merged => mergeMappings merged data) [] := by
    unfold mergeLayers
    rw [List.foldl_append, List.foldl_append, hglobal.standFor hglobalPath, hstandOwn,
      standFor_overrideLayer hoverrideLayers]
    rfl
  have hkeys : ∀ data ∈ [override, own, global], data.WellKeyed := by
    intro data hdata
    simp only [List.mem_cons, List.not_mem_nil, or_false] at hdata
    rcases hdata with rfl | rfl | rfl
    · exact hoverride
    · exact hentries.wellKeyed hyaml
    · exact hglobal.wellKeyed hyaml
  have hfrom := takenFrom_of_ofMapping htaken fun name key hsetting => by
    rw [hmerged]
    exact sectionOf_merged hkeys (hplain name key hsetting)
  cases h
  exact ⟨hfrom.probeName, hfrom.sandbox, hfrom.options, hfrom.format, hfrom.threshold, hfrom.timeout⟩

/-- A home with settings of which the project changes one. -/
def layered : Surroundings := twoFiles "coverage: {threshold: 80}" "coverage: {threshold: 60}"

theorem load_precedence_layered : ∃ config own global,
    (load layered layered.directory none (.mapping [(.text "fetch", .record [("timeout", .int 5)])])).outcome =
      .ok config ∧
    config.TakenFrom [[(.text "fetch", .record [("timeout", .int 5)])], own, global] := by
  obtain ⟨config, hload, -⟩ := exists_ok_of_any
    (show ((load layered layered.directory none
      (.mapping [(.text "fetch", .record [("timeout", .int 5)])])).outcome.toOption.any fun _ => true) = true by
        decide +kernel)
  obtain ⟨global, own, hglobal, hown, hflat, hflat', -⟩ := exists_entries_twoFiles
    "coverage: {threshold: 80}" "coverage: {threshold: 60}" (P := fun _ _ => true) (by decide +kernel)
  obtain ⟨own', hown', hfrom⟩ := load_precedence Yaml.library_keyed ⟨by decide, by simp [Value.record, Mapping.Distinct]⟩ hload
  have hsame : own' = own := Except.ok.inj (hown'.of_twoFiles.symm.trans hown.of_twoFiles)
  subst hsame
  refine ⟨config, own', global, hload, hfrom global hglobal fun name key _ data hdata => plainAt_of_isFlat ?_⟩
  simp only [List.mem_cons, List.not_mem_nil, or_false] at hdata
  rcases hdata with rfl | rfl | rfl
  · decide
  · exact hflat'
  · exact hflat

/-- A home with a setting, and a project with nothing in the place of its section. -/
def emptied : Surroundings := twoFiles "coverage: {threshold: 80}" "coverage:"

/-- The project gives no threshold, and yet that of the global file does not count. -/
theorem not_precedence_emptied : ∃ config own global v,
    (load emptied emptied.directory none (.mapping [])).outcome = .ok config ∧
    OwnEntries emptied emptied.directory none own ∧ GlobalEntries emptied global ∧
    (∀ name key, IsSetting name key → ∀ data ∈ [[], own, global], PlainAt name key data) ∧
    [[], own, global].findSome? (fun data => (sectionOf data "coverage").find? (.text "threshold")) = some v ∧
    v.toFloat ≠ .ok config.threshold := by
  obtain ⟨config, hload, hthreshold⟩ := exists_ok_of_any
    (show ((load emptied emptied.directory none (.mapping [])).outcome.toOption.any fun config =>
      config.threshold == .zero) = true by decide +kernel)
  obtain ⟨global, own, hglobal, hown, hflat, hflat', hgiven⟩ := exists_entries_twoFiles "coverage: {threshold: 80}" "coverage:"
    (P := fun global own => ([[], own, global].findSome? fun data =>
      (sectionOf data "coverage").find? (.text "threshold")).any fun v =>
        v.toFloat.toOption == some (Binary64.ofInt 80)) (by decide +kernel)
  obtain ⟨v, hv, hfloat⟩ := (Option.any_eq_true _ _).1 hgiven
  refine ⟨config, own, global, v, hload, hown, hglobal, fun name key _ data hdata => plainAt_of_isFlat ?_, hv, ?_⟩
  · simp only [List.mem_cons, List.not_mem_nil, or_false] at hdata
    rcases hdata with rfl | rfl | rfl
    · rfl
    · exact hflat'
    · exact hflat
  · intro hzero
    rw [hzero, beq_iff_eq.1 hthreshold] at hfloat
    revert hfloat
    decide +kernel

end Config

end ScriptCoverage
