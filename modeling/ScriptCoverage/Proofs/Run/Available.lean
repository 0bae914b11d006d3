import Mathlib.Data.List.Nodup
import ScriptCoverage.Proofs.Run.Discovery

/-!
# Which plugins are listed and which can be had

The names of a group are listed by a discovery that asks for no base, while a plugin is had by name from one that asks
for the base of the group. Both discoveries go through the same entry points, so both lists of names can be said by
what the entry points load to (`has_insertAll_offers`), and the two readings differ where something loads that is no
class of the group: `listed_iff_loads` says what holds of them, `not_listed_iff_usable` is a name that is listed in
vain.
-/

namespace ScriptCoverage.Plugins

variable {group : String} {base : Option PluginBase} {b : PluginBase} {builtins plugins : Plugins}
  {points : List EntryPoint} {s : Session} {name : String}

/-! ## Names of plugins -/

/-- All names are texts. -/
def Named (plugins : Plugins) : Prop := ∀ key ∈ plugins.map (·.1), ∃ name, key = .text name

/-- Whether there is a plugin of a name. -/
def Has (plugins : Plugins) (name : String) : Prop := (plugins.find? (.text name)).isSome = true

/-- The names of plugins as they are shown. -/
def shownNames (plugins : Plugins) : List String := plugins.map fun (name, _) => name.display

theorem text_shownNames (h : plugins.Named) : plugins.shownNames.map .text = plugins.map (·.1) := by
  rw [shownNames, List.map_map]
  refine List.map_congr_left fun entry hentry => ?_
  obtain ⟨name, hname⟩ := h entry.1 (List.mem_map_of_mem hentry)
  change Scalar.text entry.1.display = entry.1
  rw [hname]
  rfl

theorem mem_shownNames (h : plugins.Named) : name ∈ plugins.shownNames ↔ plugins.Has name := by
  have htext : name ∈ plugins.shownNames ↔ .text name ∈ plugins.map (·.1) := by
    rw [← text_shownNames h, List.mem_map_of_injective fun _ _ => Scalar.text.inj]
  rw [htext, Has, Mapping.find?_isSome_iff, List.mem_map]
  constructor
  · rintro ⟨entry, hentry, hname⟩
    exact ⟨entry, hentry, by rw [hname]⟩
  · rintro ⟨entry, hentry, hkey⟩
    obtain ⟨other, hother⟩ := h entry.1 (List.mem_map_of_mem hentry)
    rw [hother] at hkey
    exact ⟨entry, hentry, hother.trans hkey⟩

theorem nodup_shownNames (h : plugins.Named) (hdistinct : plugins.Distinct) : plugins.shownNames.Nodup := by
  have hkeys : plugins.map (·.1.key) = plugins.shownNames.map .text := by
    rw [text_shownNames h]
    refine List.map_congr_left fun entry hentry => ?_
    obtain ⟨name, hname⟩ := h entry.1 (List.mem_map_of_mem hentry)
    rw [hname]
    rfl
  rw [Mapping.Distinct, hkeys] at hdistinct
  exact hdistinct.of_map _

theorem mem_sortedNames (h : plugins.Named) : name ∈ sortedNames plugins ↔ plugins.Has name := by
  rw [sortedNames, List.mem_mergeSort]
  exact mem_shownNames h

/-- Sorted names of distinct plugins are in strict order. -/
theorem pairwise_sortedNames (h : plugins.Named) (hdistinct : plugins.Distinct) :
    (sortedNames plugins).Pairwise (· < ·) := by
  have hle : (sortedNames plugins).Pairwise (· ≤ ·) := by
    refine (List.pairwise_mergeSort (fun a b c hab hbc => ?_) (fun a b => ?_) plugins.shownNames).imp
      of_decide_eq_true
    · exact decide_eq_true (String.le_trans (of_decide_eq_true hab) (of_decide_eq_true hbc))
    · simpa using String.le_total a b
  have hne : (sortedNames plugins).Pairwise (· ≠ ·) :=
    (List.mergeSort_perm plugins.shownNames _).nodup_iff.2 (nodup_shownNames h hdistinct)
  exact (hle.and hne).imp fun ⟨hle, hne⟩ => Std.lt_of_le_of_ne hle hne

/-! ## Names that discovery finds -/

theorem named_insertAll_offers (h : builtins.Named) (base : Option PluginBase) (points : List EntryPoint) :
    Named (builtins.insertAll (offers base points)) := by
  intro key hkey
  rw [Mapping.keys_insertAll _ key_offers, List.mem_append, List.mem_eraseDups, List.mem_filter, names_offers] at hkey
  rcases hkey with hkey | ⟨hkey, -⟩
  · exact h key hkey
  · obtain ⟨ep, -, rfl⟩ := List.mem_map.1 hkey
    exact ⟨ep.name, rfl⟩

theorem offer?_isSome_iff {ep : EntryPoint} :
    (ep.offer? base).isSome = true ↔ ∃ loaded, ep.load = .ok loaded ∧ base.all loaded.isA = true := by
  rw [EntryPoint.offer?]
  rcases ep.load with text | loaded
  · simp [Except.toOption]
  · simp [Except.toOption, Option.filter]

/-- There is a plugin of a name if there is one built in, or if an entry point of that name has something to offer. -/
theorem has_insertAll_offers (base : Option PluginBase) (builtins : Plugins) (points : List EntryPoint) (name : String) :
    Has (builtins.insertAll (offers base points)) name ↔ builtins.Has name ∨
      ∃ ep ∈ points, ep.name = name ∧ ∃ loaded, ep.load = .ok loaded ∧ base.all loaded.isA = true := by
  rw [Has, Mapping.find?_insertAll_isSome_iff]
  refine or_congr Iff.rfl ⟨?_, ?_⟩
  · rintro ⟨entry, hentry, hkey⟩
    obtain ⟨ep, hep, hoffer, hname⟩ := mem_offers.1 hentry
    rw [hname] at hkey
    exact ⟨ep, hep, Scalar.text.inj hkey, offer?_isSome_iff.1 (hoffer ▸ rfl)⟩
  · rintro ⟨ep, hep, rfl, hloads⟩
    obtain ⟨loaded, hoffer⟩ := Option.isSome_iff_exists.1 (offer?_isSome_iff.2 hloads)
    exact ⟨(.text ep.name, loaded), mem_offers.2 ⟨ep, hep, hoffer, rfl⟩, rfl⟩

theorem exec_names (builtins : Plugins) (h : s.entryPoints.ofGroup group = .ok points) :
    (names group builtins).exec s = (.ok (sortedNames (builtins.insertAll (offers none points))),
      { s with log := s.log ++ (extend group none builtins points).log }) := by
  rw [names, ← bind_pure_comp, Action.exec_bind_ok (exec_discover none builtins h)]
  rfl

/-! ## Plugins by name -/

theorem exec_make? (plugins : Plugins) (name : String) (options : Mapping Value) (s : Session) :
    (plugins.make? (.text name) options).exec s = match plugins.find? (.text name) with
      | some loaded => (make options loaded).exec s
      | none => (.ok none, s) := by
  have hnamed : plugins.named (.text name) = .ok (plugins.find? (.text name)) := rfl
  rw [make?, hnamed]
  cases plugins.find? (.text name) with
  | none => rfl
  | some loaded => rfl

theorem exec_makeSandbox (h : s.engineInstalled = true) (engine : String) :
    (makeSandbox engine []).exec s = (.ok { name := engine }, s) := by
  rw [makeSandbox, if_neg (by simp [Mapping.get?]), Action.exec_bind_ok (Action.exec_get s), if_neg (by simp [h])]
  rfl

theorem exists_reporter {loaded : Loaded} (h : loaded.isA .reporter = true) :
    ∃ className format, loaded = .cls (.reporter className format) := by
  rcases loaded with (⟨className, format⟩ | _ | _) | _
  · exact ⟨className, format, rfl⟩
  all_goals cases h

theorem exists_sandbox {loaded : Loaded} (h : loaded.isA .sandbox = true) :
    ∃ className engine, loaded = .cls (.sandbox className engine) := by
  rcases loaded with (_ | ⟨className, engine⟩ | _) | _
  · cases h
  · exact ⟨className, engine, rfl⟩
  all_goals cases h

/-- A reporter can be had under a name exactly if discovery for reporters finds the name. -/
theorem exec_reporter? (h : s.entryPoints.ofGroup reporterGroup = .ok points) (name : String) :
    ∃ found, ((reporter? (.text name)).exec s).1 = .ok found ∧
      (found.isSome = true ↔ Has (builtinReporters.insertAll (offers (some .reporter) points)) name) := by
  have hbuiltins : ∀ entry ∈ builtinReporters, entry.2.isA .reporter := by decide
  have hisA := isA_insertAll_offers hbuiltins points
  rw [reporter?, reporters, Action.exec_bind_ok (exec_discover (some .reporter) builtinReporters h), Has]
  generalize builtinReporters.insertAll (offers (some .reporter) points) = plugins at *
  rw [Action.exec_bind, exec_make?]
  cases hfind : plugins.find? (.text name) with
  | none => exact ⟨none, rfl, Iff.rfl⟩
  | some loaded =>
    obtain ⟨key, hmem, -⟩ := Mapping.mem_of_find? hfind
    obtain ⟨className, format, rfl⟩ := exists_reporter (hisA _ hmem)
    exact ⟨some format, rfl, Iff.rfl⟩

/-- With the engine, a sandbox can be had under a name exactly if discovery for sandboxes finds the name. -/
theorem exec_sandbox? (h : s.entryPoints.ofGroup sandboxGroup = .ok points) (hengine : s.engineInstalled = true)
    (name : String) :
    ∃ found, ((sandbox? (.text name) []).exec s).1 = .ok found ∧
      (found.isSome = true ↔ Has (builtinSandboxes.insertAll (offers (some .sandbox) points)) name) := by
  have hbuiltins : ∀ entry ∈ builtinSandboxes, entry.2.isA .sandbox := by decide
  have hisA := isA_insertAll_offers hbuiltins points
  rw [sandbox?, sandboxes, if_neg (by simp), Action.exec_bind_ok (exec_discover (some .sandbox) builtinSandboxes h), Has]
  generalize builtinSandboxes.insertAll (offers (some .sandbox) points) = plugins at *
  rw [Action.exec_bind, exec_make?]
  cases hfind : plugins.find? (.text name) with
  | none => exact ⟨none, rfl, Iff.rfl⟩
  | some loaded =>
    obtain ⟨key, hmem, -⟩ := Mapping.mem_of_find? hfind
    obtain ⟨className, engine, rfl⟩ := exists_sandbox (hisA _ hmem)
    simp only [make]
    rw [Action.exec_bind_ok (exec_makeSandbox (by exact hengine) engine)]
    exact ⟨some { name := engine }, rfl, Iff.rfl⟩

/-! ## Listed and usable -/

/-- How the names that are listed for a group compare with what can be had by name, where the group has built-in
plugins and entry points, and `get` is the attempt to have the plugin of a name. -/
structure Available {α : Type} (b : PluginBase) (builtins : Plugins) (points : List EntryPoint)
    (listed : List String) (get : String → Except Failure (Option α)) : Prop where
  /-- The names are sorted, and none comes twice. -/
  sorted : listed.Pairwise (· < ·)
  /-- A name is listed if it is built in or an entry point of that name loads, to whatever it may be. -/
  listed_iff : ∀ name, name ∈ listed ↔ builtins.Has name ∨
    ∃ ep ∈ points, ep.name = name ∧ ∃ loaded, ep.load = .ok loaded
  /-- There is a plugin of a name if it is built in or an entry point of that name loads to a class that extends the
  base. -/
  usable_iff : ∀ name, ∃ found, get name = .ok found ∧ (found.isSome = true ↔ builtins.Has name ∨
    ∃ ep ∈ points, ep.name = name ∧ ∃ loaded, ep.load = .ok loaded ∧ loaded.isA b = true)
  listed_of_usable : ∀ name plugin, get name = .ok (some plugin) → name ∈ listed
  /-- Exactly the plugins that can be had are listed if under no name of an entry point that loads a plugin is
  missing. -/
  agree_iff : (∀ name, name ∈ listed ↔ ∃ plugin, get name = .ok (some plugin)) ↔
    ∀ ep ∈ points, ∀ loaded, ep.load = .ok loaded → ∃ plugin, get ep.name = .ok (some plugin)

theorem mem_listed_iff (hnamed : builtins.Named) (points : List EntryPoint) (name : String) :
    name ∈ sortedNames (builtins.insertAll (offers none points)) ↔ builtins.Has name ∨
      ∃ ep ∈ points, ep.name = name ∧ ∃ loaded, ep.load = .ok loaded := by
  rw [mem_sortedNames (named_insertAll_offers hnamed none points), has_insertAll_offers]
  simp only [Option.all_none, and_true]

theorem exists_plugin_iff {α : Type} {found : Option α} {outcome : Except Failure (Option α)}
    (hfound : outcome = .ok found)
    (hsome : found.isSome = true ↔ Has (builtins.insertAll (offers (some b) points)) name) :
    (∃ plugin, outcome = .ok (some plugin)) ↔ builtins.Has name ∨
      ∃ ep ∈ points, ep.name = name ∧ ∃ loaded, ep.load = .ok loaded ∧ loaded.isA b = true := by
  rw [has_insertAll_offers] at hsome
  simp only [Option.all_some] at hsome
  rw [← hsome, hfound, Option.isSome_iff_exists]
  simp only [Except.ok.injEq]

/-- If what can be had by name is what discovery for the base finds, it compares in this way with what discovery
without a base finds. -/
theorem available_of_get {α : Type} {get : String → Except Failure (Option α)} (hnamed : builtins.Named)
    (hdistinct : builtins.Distinct)
    (hget : ∀ name, ∃ found, get name = .ok found ∧
      (found.isSome = true ↔ Has (builtins.insertAll (offers (some b) points)) name)) :
    Available b builtins points (sortedNames (builtins.insertAll (offers none points))) get := by
  have husable (name : String) : (∃ plugin, get name = .ok (some plugin)) ↔ builtins.Has name ∨
      ∃ ep ∈ points, ep.name = name ∧ ∃ loaded, ep.load = .ok loaded ∧ loaded.isA b = true := by
    obtain ⟨found, hfound, hsome⟩ := hget name
    exact exists_plugin_iff hfound hsome
  have hincluded (name : String) (h : ∃ plugin, get name = .ok (some plugin)) :
      name ∈ sortedNames (builtins.insertAll (offers none points)) := by
    refine (mem_listed_iff hnamed points name).2 (((husable name).1 h).imp_right ?_)
    rintro ⟨ep, hep, hname, loaded, hload, -⟩
    exact ⟨ep, hep, hname, loaded, hload⟩
  refine ⟨?sorted, mem_listed_iff hnamed points, fun name => ?usable,
    fun name plugin hplugin => hincluded name ⟨plugin, hplugin⟩, ⟨?loads, ?agree⟩⟩
  case sorted =>
    exact pairwise_sortedNames (named_insertAll_offers hnamed none points) (Mapping.distinct_insertAll hdistinct _)
  case usable =>
    obtain ⟨found, hfound, hsome⟩ := hget name
    rw [has_insertAll_offers] at hsome
    exact ⟨found, hfound, hsome⟩
  case loads =>
    intro hagree ep hep loaded hload
    exact (hagree ep.name).1 ((mem_listed_iff hnamed points ep.name).2 (.inr ⟨ep, hep, rfl, loaded, hload⟩))
  case agree =>
    intro hloads name
    refine ⟨fun hmem => ?_, hincluded name⟩
    rcases (mem_listed_iff hnamed points name).1 hmem with hbuiltin | ⟨ep, hep, rfl, loaded, hload⟩
    · exact (husable name).2 (.inl hbuiltin)
    · exact hloads ep hep loaded hload

theorem named_builtinReporters : builtinReporters.Named := by
  simp [Named, builtinReporters]

theorem named_builtinSandboxes : builtinSandboxes.Named := by
  simp [Named, builtinSandboxes]

/-- **Listed and usable.** All that can be had by name is listed, for reporters and, with the engine, for sandboxes.
But a name is listed as soon as something loads under it, and can be had only if that is a class of the group. -/
theorem listed_iff_loads {reporterPoints sandboxPoints : List EntryPoint}
    (hreporters : s.entryPoints.ofGroup reporterGroup = .ok reporterPoints)
    (hsandboxes : s.entryPoints.ofGroup sandboxGroup = .ok sandboxPoints) :
    (∃ listed log, reporterNames.exec s = (.ok listed, { s with log := s.log ++ log }) ∧
      Available .reporter builtinReporters reporterPoints listed fun name =>
        ((reporter? (.text name)).exec s).1) ∧
    (s.engineInstalled = true →
      ∃ listed log, sandboxNames.exec s = (.ok listed, { s with log := s.log ++ log }) ∧
        Available .sandbox builtinSandboxes sandboxPoints listed fun name =>
          ((sandbox? (.text name) []).exec s).1) := by
  constructor
  · exact ⟨_, _, exec_names builtinReporters hreporters,
      available_of_get named_builtinReporters (by decide) (exec_reporter? hreporters)⟩
  · intro hengine
    exact ⟨_, _, exec_names builtinSandboxes hsandboxes,
      available_of_get named_builtinSandboxes (by decide) (exec_sandbox? hsandboxes hengine)⟩

/-- Entry points of all kinds, and under `extra` only one that loads to a class of no group. -/
def strayPoints : List EntryPoint := mixedPoints ++ [{ name := "extra", load := .ok (.cls (.foreign "dict")) }]

/-- A session whose packages have these entry points for reporters. -/
def straySession : Session where
  entryPoints := { groups := [(reporterGroup, strayPoints), (sandboxGroup, mixedPoints)] }

theorem listed_iff_loads_stray :
    straySession.entryPoints.ofGroup reporterGroup = .ok strayPoints ∧
      straySession.entryPoints.ofGroup sandboxGroup = .ok mixedPoints ∧
      (∃ listed log,
        reporterNames.exec straySession = (.ok listed, { straySession with log := straySession.log ++ log }) ∧
        Available .reporter builtinReporters strayPoints listed fun name =>
          ((reporter? (.text name)).exec straySession).1) ∧
      (straySession.engineInstalled = true → ∃ listed log,
        sandboxNames.exec straySession = (.ok listed, { straySession with log := straySession.log ++ log }) ∧
        Available .sandbox builtinSandboxes mixedPoints listed fun name =>
          ((sandbox? (.text name) []).exec straySession).1) := by
  have hreporters : straySession.entryPoints.ofGroup reporterGroup = .ok strayPoints := rfl
  have hsandboxes : straySession.entryPoints.ofGroup sandboxGroup = .ok mixedPoints := rfl
  exact ⟨hreporters, hsandboxes, listed_iff_loads hreporters hsandboxes⟩

/-- Not only what can be had is listed: `extra` is listed as a reporter, and there is no reporter of that name. -/
theorem not_listed_iff_usable :
    ¬ ∀ (s : Session) (listed : List String), (reporterNames.exec s).1 = .ok listed →
      ∀ name, name ∈ listed ↔ ∃ format, ((reporter? (.text name)).exec s).1 = .ok (some format) := by
  intro h
  have hpoints : straySession.entryPoints.ofGroup reporterGroup = .ok strayPoints := rfl
  have hlisted : "extra" ∈ sortedNames (builtinReporters.insertAll (offers none strayPoints)) :=
    (mem_sortedNames (named_insertAll_offers named_builtinReporters none strayPoints)).2 rfl
  have hmissing : ((reporter? (.text "extra")).exec straySession).1 = .ok none := rfl
  obtain ⟨format, hformat⟩ :=
    (h straySession _ (congrArg Prod.fst (exec_names builtinReporters hpoints)) "extra").1 hlisted
  rw [hmissing] at hformat
  cases hformat

end ScriptCoverage.Plugins
