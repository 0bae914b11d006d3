import Mathlib.Data.List.Forall2
import ScriptCoverage.Proofs.Session.Exec
import ScriptCoverage.Proofs.Value.Mapping
import ScriptCoverage.Run.Sandbox

/-!
# What discovery makes of entry points

Discovery goes through the entry points of a group and changes the plugins as it goes. What comes out can be said
without the walk. An entry point has something to offer (`EntryPoint.offer?`) or it is refused
(`EntryPoint.Refused`), and discovery adds what is offered, in order (`extend_result`), and leaves one log entry for
each entry point (`extend_log`). Everything else follows from what adding entries to a mapping does, so a refused
entry point makes no difference, wherever it stands: `discover_last_offer`.
-/

namespace ScriptCoverage

/-- Whether what an entry point loads to is a class that extends a base. -/
def Loaded.isA (b : PluginBase) : Loaded → Bool
  | .cls c => b.extendedBy c
  | .value _ => false

namespace EntryPoint

/-- What an entry point has to offer. It has to load, and if there is a base, to a class that extends it. -/
def offer? (base : Option PluginBase) (ep : EntryPoint) : Option Loaded :=
  ep.load.toOption.filter fun loaded => base.all loaded.isA

/-- Why an entry point has nothing to offer. -/
inductive Refused (ep : EntryPoint) : Option PluginBase → Plugins.Rejection → Prop
  | broken {text : String} (base : Option PluginBase) (h : ep.load = .error text) : Refused ep base (.failed text)
  | foreign {b : PluginBase} {c : PluginClass} (h : ep.load = .ok (.cls c)) (hc : b.extendedBy c = false) :
      Refused ep (some b) (.wrongBase b.className)
  | noClass {b : PluginBase} {v : Value} (h : ep.load = .ok (.value v)) :
      Refused ep (some b) (.failed Fault.wrongType.label)

/-- The warning that a refused entry point gives. -/
def Warned (base : Option PluginBase) (ep : EntryPoint) (entry : LogEntry) : Prop :=
  ∃ rejection, ep.Refused base rejection ∧ entry = ⟨.warning, rejection.message ep.name⟩

/-- The log entry that an entry point leaves. -/
inductive Noted (group : String) (base : Option PluginBase) (ep : EntryPoint) : LogEntry → Prop
  | discovered (h : (ep.offer? base).isSome) :
      Noted group base ep ⟨.debug, s!"Discovered plugin: {ep.name} (group: {group})"⟩
  | warned {entry : LogEntry} (h : ep.offer? base = none) (hentry : ep.Warned base entry) : Noted group base ep entry

end EntryPoint

namespace Plugins

variable {group : String} {base : Option PluginBase} {b : PluginBase} {builtins plugins : Plugins}
  {points : List EntryPoint} {ep : EntryPoint} {s : Session}

/-! ## One entry point -/

/-- An entry point is accepted for what it offers, or it is refused. -/
theorem accept_cases (base : Option PluginBase) (ep : EntryPoint) :
    (∃ loaded, ep.offer? base = some loaded ∧ accept base ep = .ok loaded) ∨
    (∃ rejection, ep.offer? base = none ∧ ep.Refused base rejection ∧ accept base ep = .error rejection) := by
  unfold accept EntryPoint.offer?
  rcases hload : ep.load with text | loaded
  · exact .inr ⟨_, rfl, .broken base hload, by simp⟩
  · rcases base with - | b
    · exact .inl ⟨loaded, rfl, by simp⟩
    · rcases loaded with c | v
      · rcases hc : b.extendedBy c with - | -
        · exact .inr ⟨_, by simp [Except.toOption, Loaded.isA, hc], .foreign hload hc, by simp [hc]⟩
        · exact .inl ⟨.cls c, by simp [Except.toOption, Loaded.isA, hc], by simp [hc]⟩
      · exact .inr ⟨_, rfl, .noClass hload, by simp⟩

/-! ## A walk through entry points -/

/-- The plugins that entry points offer, by name and in order. -/
def offers (base : Option PluginBase) (points : List EntryPoint) : List (Scalar × Loaded) :=
  points.filterMap fun ep => (ep.offer? base).map fun loaded => (.text ep.name, loaded)

theorem extend_result (group : String) (base : Option PluginBase) (plugins : Plugins) (points : List EntryPoint) :
    (extend group base plugins points).result = plugins.insertAll (offers base points) := by
  -- an accepted entry point changes the plugins that the rest is added to
  induction points generalizing plugins with
  | nil => rfl
  | cons ep rest ih =>
    obtain ⟨loaded, hoffer, haccept⟩ | ⟨rejection, hoffer, -, haccept⟩ := accept_cases base ep
    · simp only [extend, haccept, Logged.result_bind, ih, offers, List.filterMap_cons, hoffer, Option.map_some,
        Mapping.insertAll_cons]
    · simp only [extend, haccept, Logged.result_bind, ih, offers, List.filterMap_cons, hoffer, Option.map_none]

theorem extend_log (group : String) (base : Option PluginBase) (plugins : Plugins) (points : List EntryPoint) :
    List.Forall₂ (EntryPoint.Noted group base) points (extend group base plugins points).log := by
  induction points generalizing plugins with
  | nil => exact .nil
  | cons ep rest ih =>
    obtain ⟨loaded, hoffer, haccept⟩ | ⟨rejection, hoffer, hrefused, haccept⟩ := accept_cases base ep
    · simp only [extend, haccept, Logged.log_bind, Logged.log_tell]
      exact .cons (.discovered (by rw [hoffer]; rfl)) (ih _)
    · simp only [extend, haccept, Logged.log_bind, Logged.log_tell]
      exact .cons (.warned hoffer ⟨rejection, hrefused, rfl⟩) (ih _)

/-- The warnings are those of the refused entry points. -/
theorem warnings_of_noted {log : List LogEntry} (h : List.Forall₂ (EntryPoint.Noted group base) points log) :
    List.Forall₂ (EntryPoint.Warned base) (points.filter fun ep => (ep.offer? base).isNone)
      (log.filter (·.level = .warning)) := by
  induction h with
  | nil => exact .nil
  | @cons ep entry _ _ hnoted _ ih =>
    cases hnoted with
    | discovered hoffer =>
      rwa [List.filter_cons_of_neg (by simpa [Option.isSome_iff_ne_none] using hoffer),
        List.filter_cons_of_neg (by simp)]
    | warned hoffer hentry =>
      obtain ⟨rejection, hrefused, rfl⟩ := hentry
      rw [List.filter_cons_of_pos (by simp [hoffer]), List.filter_cons_of_pos (by simp)]
      exact .cons ⟨rejection, hrefused, rfl⟩ ih

theorem exec_discover (base : Option PluginBase) (builtins : Plugins)
    (h : s.entryPoints.ofGroup group = .ok points) :
    (discover group base builtins).exec s = (.ok (builtins.insertAll (offers base points)),
      { s with log := s.log ++ (extend group base builtins points).log }) := by
  rw [discover, Action.exec_bind_ok (Action.exec_get s)]
  simp only [h, Action.exec_ofLogged, extend_result]

/-! ## What is offered under a name -/

theorem offers_filter (base : Option PluginBase) (points : List EntryPoint) :
    offers base (points.filter fun ep => (ep.offer? base).isSome) = offers base points := by
  rw [offers, List.filterMap_filter]
  refine List.filterMap_congr fun ep _ => ?_
  cases ep.offer? base with
  | none => rfl
  | some loaded => rfl

theorem names_offers (base : Option PluginBase) (points : List EntryPoint) :
    (offers base points).map (·.1) =
      (points.filter fun ep => (ep.offer? base).isSome).map fun ep => .text ep.name := by
  rw [offers, List.map_filterMap, ← List.filterMap_eq_map, List.filterMap_filter]
  refine List.filterMap_congr fun ep _ => ?_
  cases ep.offer? base with
  | none => rfl
  | some loaded => rfl

theorem values_offers (base : Option PluginBase) (points : List EntryPoint) (name : String) :
    ((offers base points).filter (·.1.key = (Scalar.text name).key)).map (·.2) =
      (points.filter (·.name = name)).filterMap (·.offer? base) := by
  rw [offers, List.filter_filterMap, List.map_filterMap, List.filterMap_filter]
  refine List.filterMap_congr fun ep _ => ?_
  cases ep.offer? base with
  | none => simp
  | some loaded =>
    by_cases hname : ep.name = name
    · simp [hname, Option.filter]
    · simp [hname, Option.filter, Scalar.key]

theorem mem_offers {entry : Scalar × Loaded} :
    entry ∈ offers base points ↔ ∃ ep ∈ points, ep.offer? base = some entry.2 ∧ entry.1 = .text ep.name := by
  simp only [offers, List.mem_filterMap, Option.map_eq_some_iff]
  constructor
  · rintro ⟨ep, hep, loaded, hoffer, rfl⟩
    exact ⟨ep, hep, hoffer, rfl⟩
  · rintro ⟨ep, hep, hoffer, hname⟩
    exact ⟨ep, hep, entry.2, hoffer, by rw [← hname]⟩

theorem key_offers : ∀ entry ∈ offers base points, entry.1.key = entry.1 := by
  intro entry hentry
  obtain ⟨ep, -, -, hname⟩ := mem_offers.1 hentry
  exact hname ▸ rfl

/-- All that is found for a base is a class that extends it. -/
theorem isA_insertAll_offers (h : ∀ entry ∈ builtins, entry.2.isA b) (points : List EntryPoint) :
    ∀ entry ∈ builtins.insertAll (offers (some b) points), entry.2.isA b := by
  refine Mapping.forall_mem_insertAll (P := fun loaded => Loaded.isA b loaded) h fun entry hentry => ?_
  obtain ⟨ep, -, hoffer, -⟩ := mem_offers.1 hentry
  exact (Option.filter_eq_some_iff.1 hoffer).2

/-! ## Discovery -/

/-- What discovery for a base makes of built-in plugins and entry points. -/
structure Discovered (b : PluginBase) (builtins : Plugins) (points : List EntryPoint) (plugins : Plugins)
    (log : List LogEntry) : Prop where
  /-- Under a name stands what the last entry point of that name with an offer offers, or else what is built in. -/
  last_offer : ∀ name : String, plugins.find? (.text name) =
    ((points.filter (·.name = name)).filterMap (·.offer? (some b))).getLast?.or (builtins.find? (.text name))
  /-- All plugins are classes that extend the base. -/
  isA : ∀ entry ∈ plugins, entry.2.isA b
  /-- The names are the built-in ones in their order, and then the new ones in the order of their first offer. -/
  names : plugins.map (·.1) = builtins.map (·.1) ++
    (((points.filter fun ep => (ep.offer? (some b)).isSome).map fun ep => Scalar.text ep.name).filter
      fun name => (builtins.find? name).isNone).eraseDups
  distinct : builtins.Distinct → plugins.Distinct
  /-- There is one warning for each refused entry point, in order. -/
  warnings : List.Forall₂ (EntryPoint.Warned (some b)) (points.filter fun ep => (ep.offer? (some b)).isNone)
    (log.filter (·.level = .warning))
  /-- Without the refused entry points the plugins would be the same. -/
  unmoved : ∀ group, plugins = (extend group (some b) builtins
    (points.filter fun ep => (ep.offer? (some b)).isSome)).result

/-- **Discovery.** Whatever the entry points of a group are, discovery succeeds, and of several plugins of a name the
last one that extends the base counts. -/
theorem discover_last_offer (hpoints : s.entryPoints.ofGroup group = .ok points)
    (hbuiltins : ∀ entry ∈ builtins, entry.2.isA b) :
    ∃ plugins log, (discover group (some b) builtins).exec s = (.ok plugins, { s with log := s.log ++ log }) ∧
      Discovered b builtins points plugins log := by
  refine ⟨_, _, exec_discover (some b) builtins hpoints, ?_, ?_, ?_, ?_, ?_, ?_⟩
  · intro name
    rw [Mapping.find?_insertAll, values_offers]
  · exact isA_insertAll_offers hbuiltins points
  · rw [Mapping.keys_insertAll _ key_offers, names_offers]
  · exact fun h => Mapping.distinct_insertAll h _
  · exact warnings_of_noted (extend_log group (some b) builtins points)
  · intro group
    rw [extend_result, offers_filter]

/-- Entry points of all kinds, with names that come again. -/
def mixedPoints : List EntryPoint :=
  [{ name := "lines", load := .ok (.cls (.reporter "LineReporter" .text)) },
   { name := "text", load := .ok (.cls (.foreign "dict")) },
   { name := "lines", load := .error "No module named 'lines'" },
   { name := "json", load := .ok (.cls (.reporter "CompactReporter" .json)) },
   { name := "page", load := .ok (.cls (.reporter "PageReporter" .html)) },
   { name := "lines", load := .ok (.cls (.reporter "ColumnReporter" .summary)) },
   { name := "json", load := .ok (.value .null) },
   { name := "engine", load := .ok (.cls (.sandbox "EngineSandbox" "engine")) }]

theorem discover_last_offer_mixed :
    let s : Session := { entryPoints := { groups := [(reporterGroup, mixedPoints)] } }
    s.entryPoints.ofGroup reporterGroup = .ok mixedPoints ∧ (∀ entry ∈ builtinReporters, entry.2.isA .reporter) ∧
      ∃ plugins log,
        (discover reporterGroup (some .reporter) builtinReporters).exec s = (.ok plugins, { s with log := s.log ++ log }) ∧
        Discovered .reporter builtinReporters mixedPoints plugins log := by
  intro s
  have hpoints : s.entryPoints.ofGroup reporterGroup = .ok mixedPoints := rfl
  have hbuiltins : ∀ entry ∈ builtinReporters, entry.2.isA .reporter := by decide
  exact ⟨hpoints, hbuiltins, discover_last_offer hpoints hbuiltins⟩

example : (extend reporterGroup (some .reporter) builtinReporters mixedPoints).result =
    [(.text "text", .cls (.reporter "TextReporter" .text)),
     (.text "html", .cls (.reporter "HTMLReporter" .html)),
     (.text "json", .cls (.reporter "CompactReporter" .json)),
     (.text "summary", .cls (.reporter "SummaryReporter" .summary)),
     (.text "lines", .cls (.reporter "ColumnReporter" .summary)),
     (.text "page", .cls (.reporter "PageReporter" .html))] := rfl

end Plugins

end ScriptCoverage
