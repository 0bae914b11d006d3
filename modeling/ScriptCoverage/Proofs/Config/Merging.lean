import ScriptCoverage.Config.Basic
import ScriptCoverage.Proofs.Value.Mapping

/-!
# Merging mappings

Two mappings are merged key by key, and the merge goes down a level wherever both have a mapping under one key. So it
can be followed along a path of keys. A path that the overlay has leads to what the overlay has there, merged with what
the base has there (`Value.at?_mergeValue`). Beyond the last key of the path that the overlay knows, the base shows
through, unless the overlay has put something without keys in its way (`Value.at?_mergeValue_beyond`).
`mergeMappings_at` says what that comes to, and `keys_mergeEntries` in which order the keys of one level stand.
-/

namespace ScriptCoverage

/-! ## One level -/

/-- A value that is no mapping replaces what was there. -/
theorem mergeValue_of_plain (below : Option Value) {v : Value} (h : ∀ entries, v ≠ .mapping entries) :
    mergeValue below v = v := by
  unfold mergeValue
  split
  · exact absurd rfl (h _)
  · rfl

/-- What is no mapping is replaced. -/
theorem mergeValue_of_none {below : Option Value} (h : below.bind Value.entries? = none) (v : Value) :
    mergeValue below v = v := by
  unfold mergeValue
  split
  · simp [Value.entries?] at h
  · rfl

/-- **Looking into a merge.** An entry that is laid over is found merged with what was there, any other as before. -/
theorem find?_mergeEntries {overlay : Mapping Value} (h : overlay.Distinct) (base : Mapping Value) (key : Scalar) :
    (mergeEntries base overlay).find? key = match overlay.find? key with
      | some v => some (mergeValue (base.find? key) v)
      | none => base.find? key := by
  induction overlay generalizing base with
  | nil => rfl
  | cons entry rest ih =>
    obtain ⟨k, v⟩ := entry
    obtain ⟨hk, hrest⟩ := Mapping.distinct_cons.1 h
    rw [mergeEntries, ih hrest, Mapping.find?_insert, Mapping.find?]
    by_cases hkey : k.key = key.key
    · -- no later entry is for the key
      rw [if_pos hkey, if_pos hkey, Mapping.find?_eq_none (hkey ▸ hk), Mapping.find?_congr hkey]
    · rw [if_neg hkey, if_neg hkey]

/-- **The order of a merge.** The keys that were there keep their places, and the new ones follow in the order of the
overlay. -/
theorem keys_mergeEntries {overlay : Mapping Value} (h : overlay.Distinct) (base : Mapping Value) :
    (mergeEntries base overlay).map (·.1) =
      base.map (·.1) ++ (overlay.map (·.1)).filter fun key => (base.find? key).isNone := by
  induction overlay generalizing base with
  | nil => simp [mergeEntries]
  | cons entry rest ih =>
    obtain ⟨k, v⟩ := entry
    obtain ⟨hk, hrest⟩ := Mapping.distinct_cons.1 h
    -- what is new beside the rest of the overlay does not change by an entry that is for none of its keys
    have hnew : ∀ key ∈ rest.map (·.1), ((base.insert k (mergeValue (base.find? k) v)).find? key).isNone =
        (base.find? key).isNone := by
      intro key hkey
      obtain ⟨e, he, rfl⟩ := List.mem_map.1 hkey
      rw [Mapping.find?_insert, if_neg (Ne.symm (hk e he))]
    rw [mergeEntries, ih hrest, Mapping.keys_insert, List.filter_congr hnew, List.map_cons]
    cases hold : base.find? k with
    | some below => simp [hold]
    | none => simp [hold]

/-! ## Paths of keys -/

namespace Value

/-- What a value has under a key, if it is a mapping. -/
def under? (key : Scalar) (v : Value) : Option Value := v.entries?.bind (·.find? key)

/-- What a value has at the end of a path of keys. -/
def at? : Value → List Scalar → Option Value
  | v, [] => some v
  | v, key :: rest => (v.under? key).bind (·.at? rest)

@[simp] theorem at?_nil (v : Value) : v.at? [] = some v := rfl

@[simp] theorem at?_cons (v : Value) (key : Scalar) (rest : List Scalar) :
    v.at? (key :: rest) = (v.under? key).bind (·.at? rest) := rfl

/-- The longest beginning `q` of a path that a value has, with what the value has there. -/
structure Deepest (v : Value) (path q : List Scalar) (w : Value) : Prop where
  isPrefix : q <+: path
  found : v.at? q = some w
  longest : ∀ other, other <+: path → (v.at? other).isSome = true → other <+: q

variable {v u w : Value} {key : Scalar} {path rest q : List Scalar}

theorem entries?_eq_some {entries : Mapping Value} : v.entries? = some entries ↔ v = .mapping entries := by
  cases v <;> simp [entries?]

theorem ne_mapping (h : v.entries? = none) : ∀ entries, v ≠ .mapping entries := by
  rintro entries rfl
  cases h

theorem Keyed.under (h : v.Keyed) (hu : v.under? key = some u) :
    ∃ entries, v = .mapping entries ∧ Mapping.Distinct entries ∧ Mapping.find? key entries = some u ∧ u.Keyed := by
  cases h with
  | plain noEntries => simp [under?, noEntries] at hu
  | mapping distinct values =>
    obtain ⟨k, hmem, -⟩ := Mapping.mem_of_find? hu
    exact ⟨_, rfl, distinct, hu, values _ hmem⟩

/-- A mapping that keys lead to has one entry for each key. -/
theorem Keyed.distinct_of_at? {entries : Mapping Value} (h : v.Keyed)
    (hentries : v.at? path = some (.mapping entries)) : entries.Distinct := by
  induction path generalizing v with
  | nil =>
    cases hentries
    exact h.of_mapping.1
  | cons key rest ih =>
    obtain ⟨u, hu, hrest⟩ := Option.bind_eq_some_iff.1 hentries
    obtain ⟨-, -, -, -, hkeyed⟩ := h.under hu
    exact ih hkeyed hrest

/-- Under a key stands the merge of what both have there, or what was there if the overlay has nothing. -/
theorem under?_merge {entries : Mapping Value} (h : entries.Distinct) (below : Option Value) (key : Scalar) :
    (mergeValue below (.mapping entries)).under? key = match entries.find? key with
      | some u => some (mergeValue (below.bind (under? key)) u)
      | none => below.bind (under? key) := by
  cases hbelow : below.bind entries? with
  | none =>
    have hnone : below.bind (under? key) = none := by
      cases below <;> simp_all [under?]
    rw [mergeValue_of_none hbelow, hnone, under?, entries?, Option.bind_some]
    cases Mapping.find? key entries with
    | none => rfl
    | some u => exact congrArg some (mergeValue_of_none rfl u).symm
  | some base =>
    obtain ⟨b, rfl, hb⟩ := Option.bind_eq_some_iff.1 hbelow
    obtain rfl := entries?_eq_some.1 hb
    rw [mergeValue]
    exact find?_mergeEntries h base key

theorem under?_mergeValue (hv : v.Keyed) (below : Option Value) (hu : v.under? key = some u) :
    (mergeValue below v).under? key = some (mergeValue (below.bind (under? key)) u) := by
  obtain ⟨entries, rfl, hdistinct, hfind, -⟩ := hv.under hu
  rw [under?_merge hdistinct, hfind]

theorem under?_mergeValue_of_none (hv : v.Keyed) (below : Option Value) (hu : v.under? key = none) :
    (mergeValue below v).under? key = if v.entries?.isSome then below.bind (under? key) else none := by
  cases hv with
  | plain noEntries =>
    rw [mergeValue_of_plain below (ne_mapping noEntries), hu, noEntries]
    rfl
  | @mapping entries distinct values =>
    have hfind : Mapping.find? key entries = none := hu
    rw [under?_merge distinct, hfind]
    rfl

/-- **Down a path of the overlay.** The induction is on the path, and at each key the merge of two values becomes that
of what they have under the key. -/
theorem at?_mergeValue (hv : v.Keyed) (below : Option Value) (h : v.at? path = some w) :
    (mergeValue below v).at? path = some (mergeValue (below.bind (·.at? path)) w) := by
  induction path generalizing v below with
  | nil =>
    cases h
    simp
  | cons key rest ih =>
    obtain ⟨u, hu, hw⟩ := Option.bind_eq_some_iff.1 h
    obtain ⟨entries, -, -, -, hkeyed⟩ := hv.under hu
    rw [at?_cons, under?_mergeValue hv below hu, Option.bind_some, ih hkeyed _ hw, Option.bind_assoc]
    rfl

theorem Deepest.of_under?_eq_none (h : v.under? key = none) : v.Deepest (key :: rest) [] v where
  isPrefix := List.nil_prefix
  found := rfl
  longest := by
    intro other hother hfound
    cases other with
    | nil => exact List.nil_prefix
    | cons k more =>
      obtain ⟨rfl, -⟩ := List.cons_prefix_cons.1 hother
      simp [h] at hfound

theorem Deepest.cons (h : u.Deepest rest q w) (hu : v.under? key = some u) : v.Deepest (key :: rest) (key :: q) w where
  isPrefix := List.cons_prefix_cons.2 ⟨rfl, h.isPrefix⟩
  found := by simp [hu, h.found]
  longest := by
    intro other hother hfound
    cases other with
    | nil => exact List.nil_prefix
    | cons k more =>
      obtain ⟨rfl, hmore⟩ := List.cons_prefix_cons.1 hother
      rw [at?_cons, hu, Option.bind_some] at hfound
      exact List.cons_prefix_cons.2 ⟨rfl, h.longest more hmore hfound⟩

/-- **Off the paths of the overlay.** Where the overlay has no way on, the base shows through a mapping, and nothing
shows through anything else. -/
theorem at?_mergeValue_beyond (hv : v.Keyed) (below : Option Value) (h : v.at? path = none) :
    ∃ q w, v.Deepest path q w ∧
      (mergeValue below v).at? path = if w.entries?.isSome then below.bind (·.at? path) else none := by
  induction path generalizing v below with
  | nil => cases h
  | cons key rest ih =>
    cases hu : v.under? key with
    | none =>
      refine ⟨[], v, .of_under?_eq_none hu, ?_⟩
      rw [at?_cons, under?_mergeValue_of_none hv below hu]
      split
      · rw [Option.bind_assoc]
        rfl
      · rfl
    | some u =>
      obtain ⟨entries, -, -, -, hkeyed⟩ := hv.under hu
      rw [at?_cons, hu, Option.bind_some] at h
      obtain ⟨q, w, hdeepest, heq⟩ := ih hkeyed (below.bind (under? key)) h
      refine ⟨key :: q, w, hdeepest.cons hu, ?_⟩
      rw [at?_cons, under?_mergeValue hv below hu, Option.bind_some, heq, Option.bind_assoc]
      rfl

end Value

/-! ## Whole mappings -/

/-- What a merge has at a path of keys, by what the two mappings have there. -/
structure MergedAt (base overlay merged : Value) (path : List Scalar) : Prop where
  /-- What is no mapping replaces what was there. -/
  replaced : ∀ v, overlay.at? path = some v → v.entries? = none → merged.at? path = some v
  /-- A mapping that meets no mapping comes in as it is. -/
  added : ∀ entries, overlay.at? path = some (.mapping entries) → (base.at? path).bind Value.entries? = none →
    merged.at? path = some (.mapping entries)
  /-- Two mappings become one, with the keys of the base in front. -/
  joined : ∀ below entries, base.at? path = some (.mapping below) → overlay.at? path = some (.mapping entries) →
    ∃ both, merged.at? path = some (.mapping both) ∧ both.map (·.1) =
      below.map (·.1) ++ (entries.map (·.1)).filter fun key => (Mapping.find? key below).isNone
  /-- Where the overlay has nothing, all hangs on the last thing that it has on the way. -/
  kept : overlay.at? path = none → ∃ q v, overlay.Deepest path q v ∧
    merged.at? path = if v.entries?.isSome then base.at? path else none

/-- **Merging by paths.** At every path of keys a merge has what the overlay has there, unless that is a mapping and
meets another one: then it has both, level by level. What the overlay does not mention stays as it was. -/
theorem mergeMappings_at (base : Mapping Value) {overlay : Mapping Value} (h : Value.Keyed (.mapping overlay))
    (path : List Scalar) :
    MergedAt (.mapping base) (.mapping overlay) (.mapping (mergeMappings base overlay)) path := by
  have hmerge : Value.mapping (mergeMappings base overlay) = mergeValue (some (.mapping base)) (.mapping overlay) := by
    rw [mergeValue, mergeMappings]
  constructor
  case replaced =>
    intro v hv hplain
    rw [hmerge, Value.at?_mergeValue h _ hv, mergeValue_of_plain _ (Value.ne_mapping hplain)]
  case added =>
    intro entries hentries hnone
    rw [hmerge, Value.at?_mergeValue h _ hentries, Option.bind_some, mergeValue_of_none hnone]
  case joined =>
    intro below entries hbelow hentries
    refine ⟨mergeEntries below entries, ?_, keys_mergeEntries (h.distinct_of_at? hentries) below⟩
    rw [hmerge, Value.at?_mergeValue h _ hentries, Option.bind_some, hbelow, mergeValue]
  case kept =>
    intro hnone
    rw [hmerge]
    exact Value.at?_mergeValue_beyond h _ hnone

/-- Settings of which some are laid over. -/
def lowerSettings : Mapping Value :=
  [(.text "execution", .record [("sandbox", .text "quickjs"), ("limits", .record [("memory", .int 64)])]),
   (.text "output", .text "json")]

/-- Settings that have something else in the place of a mapping, a mapping in the place of something else, and a new key
beside old ones. -/
def upperSettings : Mapping Value :=
  [(.text "output", .record [("format", .text "html")]),
   (.text "execution", .record [("trace", .bool true), ("limits", .null)])]

def mergedSettings : Value := .mapping (mergeMappings lowerSettings upperSettings)

theorem mergeMappings_at_upperSettings :
    Value.Keyed (.mapping upperSettings) ∧
    mergedSettings.at? [.text "execution", .text "limits"] = some .null ∧
    mergedSettings.at? [.text "output"] = some (.record [("format", .text "html")]) ∧
    (∃ both, mergedSettings.at? [.text "execution"] = some (.mapping both) ∧
      both.map (·.1) = [.text "sandbox", .text "limits", .text "trace"]) ∧
    ∃ q v, (Value.mapping upperSettings).Deepest [.text "execution", .text "limits", .text "memory"] q v ∧
      mergedSettings.at? [.text "execution", .text "limits", .text "memory"] =
        if v.entries?.isSome then some (.int 64) else none := by
  have hkeyed : Value.Keyed (.mapping upperSettings) := by
    have hplain : ∀ s, Value.Keyed (.scalar s) := fun s => .plain rfl
    have houtput : Value.Keyed (.record [("format", .text "html")]) := .mapping (by decide) (by simp [hplain])
    have hexecution : Value.Keyed (.record [("trace", .bool true), ("limits", .null)]) :=
      .mapping (by decide) (by simp [hplain])
    exact .mapping (by decide) (by simp [upperSettings, houtput, hexecution])
  have hat := mergeMappings_at lowerSettings hkeyed
  refine ⟨hkeyed, (hat _).replaced _ rfl rfl, (hat _).added _ rfl rfl, ?_, (hat _).kept rfl⟩
  obtain ⟨both, hboth, hkeys⟩ := (hat [.text "execution"]).joined _ _ rfl rfl
  exact ⟨both, hboth, hkeys.trans (by decide)⟩

end ScriptCoverage
