import ScriptCoverage.Value.Basic

/-!
# Mappings

What is found under a key is the value of an entry for it (`Mapping.mem_of_find?`), and a mapping that is built entry
by entry never has two entries for one key (`Mapping.distinct_ofEntries`). `Value.Keyed` says that of the mappings in
it, too.
-/

namespace ScriptCoverage

namespace Mapping

variable {α : Type}

/-- No two entries are for one key. -/
def Distinct (m : Mapping α) : Prop := (m.map (·.1.key)).Nodup

instance (m : Mapping α) : Decidable m.Distinct := inferInstanceAs (Decidable (List.Nodup _))

theorem distinct_cons {k : Scalar} {v : α} {m : Mapping α} :
    Distinct ((k, v) :: m) ↔ (∀ entry ∈ m, entry.1.key ≠ k.key) ∧ m.Distinct := by
  simp [Distinct, List.nodup_cons]

theorem find?_congr {key other : Scalar} (h : key.key = other.key) (m : Mapping α) : m.find? key = m.find? other := by
  induction m with
  | nil => rfl
  | cons entry rest ih =>
    obtain ⟨k, v⟩ := entry
    simp only [find?, h, ih]

theorem find?_eq_none {key : Scalar} {m : Mapping α} (h : ∀ entry ∈ m, entry.1.key ≠ key.key) : m.find? key = none := by
  induction m with
  | nil => rfl
  | cons entry rest ih =>
    obtain ⟨k, v⟩ := entry
    obtain ⟨hk, hrest⟩ := List.forall_mem_cons.1 h
    simp only [find?, if_neg hk, ih hrest]

/-- What is found is the value of an entry for the key. -/
theorem mem_of_find? {key : Scalar} {v : α} {m : Mapping α} (h : m.find? key = some v) :
    ∃ k, (k, v) ∈ m ∧ k.key = key.key := by
  induction m with
  | nil => cases h
  | cons entry rest ih =>
    obtain ⟨k, w⟩ := entry
    unfold find? at h
    split at h
    · rename_i hk
      cases h
      exact ⟨k, List.mem_cons_self, hk⟩
    · obtain ⟨k', hmem, hk'⟩ := ih h
      exact ⟨k', List.mem_cons_of_mem _ hmem, hk'⟩

theorem find?_isSome_iff {key : Scalar} {m : Mapping α} :
    (m.find? key).isSome = true ↔ ∃ entry ∈ m, entry.1.key = key.key := by
  induction m with
  | nil => simp
  | cons entry rest ih =>
    obtain ⟨k, v⟩ := entry
    by_cases hk : k.key = key.key
    · simp [find?, hk]
    · simp [find?, hk, ih]

/-! ## Building mappings -/

/-- An insertion adds at most one entry, and its key. -/
theorem mem_insert {key : Scalar} {value : α} {m : Mapping α} {entry : Scalar × α} (h : entry ∈ m.insert key value) :
    entry ∈ m ∨ entry.1.key = key.key ∧ entry.2 = value := by
  induction m with
  | nil => exact Or.inr (by simp_all [insert])
  | cons first rest ih =>
    obtain ⟨k, v⟩ := first
    unfold insert at h
    split at h
    · rename_i hk
      rcases List.mem_cons.1 h with rfl | h
      · exact Or.inr ⟨hk, rfl⟩
      · exact Or.inl (List.mem_cons_of_mem _ h)
    · rcases List.mem_cons.1 h with rfl | h
      · exact Or.inl List.mem_cons_self
      · exact (ih h).imp_left (List.mem_cons_of_mem _)

theorem distinct_insert {key : Scalar} {value : α} {m : Mapping α} (h : m.Distinct) : (m.insert key value).Distinct := by
  induction m with
  | nil => exact distinct_cons.2 ⟨by simp, List.nodup_nil⟩
  | cons first rest ih =>
    obtain ⟨k, v⟩ := first
    obtain ⟨hk, hrest⟩ := distinct_cons.1 h
    unfold insert
    split
    · exact distinct_cons.2 ⟨hk, hrest⟩
    · rename_i hne
      refine distinct_cons.2 ⟨fun entry hentry => ?_, ih hrest⟩
      rcases mem_insert hentry with hmem | ⟨hkey, -⟩
      · exact hk entry hmem
      · exact hkey ▸ Ne.symm hne

/-- Adds entries one after the other. -/
def insertAll (m : Mapping α) (entries : List (Scalar × α)) : Mapping α :=
  entries.foldl (fun m entry => m.insert entry.1 entry.2) m

@[simp] theorem insertAll_nil (m : Mapping α) : m.insertAll [] = m := rfl

@[simp] theorem insertAll_cons (m : Mapping α) (entry : Scalar × α) (rest : List (Scalar × α)) :
    m.insertAll (entry :: rest) = (m.insert entry.1 entry.2).insertAll rest := rfl

theorem ofEntries_eq (entries : List (Scalar × α)) : ofEntries entries = insertAll [] entries := rfl

theorem distinct_insertAll {m : Mapping α} (h : m.Distinct) (entries : List (Scalar × α)) :
    (m.insertAll entries).Distinct := by
  induction entries generalizing m with
  | nil => exact h
  | cons first rest ih => exact ih (distinct_insert h)

/-- What all values of a mapping and of the entries added to it have in common, the values of the result have. -/
theorem forall_mem_insertAll {P : α → Prop} {m : Mapping α} {entries : List (Scalar × α)} (hm : ∀ e ∈ m, P e.2)
    (hentries : ∀ e ∈ entries, P e.2) : ∀ e ∈ m.insertAll entries, P e.2 := by
  induction entries generalizing m with
  | nil => exact hm
  | cons first rest ih =>
    obtain ⟨hfirst, hrest⟩ := List.forall_mem_cons.1 hentries
    refine ih (fun e he => ?_) hrest
    rcases mem_insert he with he | ⟨-, hvalue⟩
    · exact hm e he
    · exact hvalue ▸ hfirst

/-- **One entry a key.** Entries make a mapping that has one entry for each of their keys, with values of theirs. -/
theorem distinct_ofEntries (entries : List (Scalar × α)) :
    (ofEntries entries).Distinct ∧ ∀ entry ∈ ofEntries entries, entry.2 ∈ entries.map (·.2) := by
  rw [ofEntries_eq]
  exact ⟨distinct_insertAll (m := []) List.nodup_nil entries,
    forall_mem_insertAll (by simp) fun e he => List.mem_map_of_mem he⟩

/-- **The last one counts.** Under a key stands the value of the last entry that was added for it, and if there is none
what stood there before. -/
theorem find?_insertAll (m : Mapping α) (entries : List (Scalar × α)) (key : Scalar) :
    (m.insertAll entries).find? key =
      ((entries.filter (·.1.key = key.key)).map (·.2)).getLast?.or (m.find? key) := by
  induction entries generalizing m with
  | nil => rfl
  | cons first rest ih =>
    rw [insertAll_cons, ih, find?_insert]
    by_cases hkey : first.1.key = key.key
    · rw [List.filter_cons_of_pos (by simpa using hkey), if_pos hkey, List.map_cons, List.getLast?_cons]
      cases (((rest.filter (·.1.key = key.key)).map (·.2)).getLast?) <;> rfl
    · rw [List.filter_cons_of_neg (by simpa using hkey), if_neg hkey]

theorem find?_insertAll_isSome_iff {m : Mapping α} {entries : List (Scalar × α)} {key : Scalar} :
    ((m.insertAll entries).find? key).isSome = true ↔
      (m.find? key).isSome = true ∨ ∃ entry ∈ entries, entry.1.key = key.key := by
  rw [find?_insertAll, Option.isSome_or, Bool.or_eq_true, List.getLast?_isSome, or_comm]
  simp

theorem keys_insert (m : Mapping α) (key : Scalar) (value : α) :
    (m.insert key value).map (·.1) = if (m.find? key).isSome then m.map (·.1) else m.map (·.1) ++ [key] := by
  induction m with
  | nil => rfl
  | cons first rest ih =>
    obtain ⟨k, v⟩ := first
    by_cases hk : k.key = key.key
    · simp [insert, find?, hk]
    · simp only [insert, find?, if_neg hk, List.map_cons, ih]
      split <;> rfl

/-- **First come, first placed.** A key that was there keeps its place, and the new ones follow in the order in which
they first came. -/
theorem keys_insertAll (m : Mapping α) {entries : List (Scalar × α)} (h : ∀ e ∈ entries, e.1.key = e.1) :
    (m.insertAll entries).map (·.1) =
      m.map (·.1) ++ ((entries.map (·.1)).filter fun key => (m.find? key).isNone).eraseDups := by
  induction entries generalizing m with
  | nil => simp
  | cons first rest ih =>
    obtain ⟨hfirst, hrest⟩ := List.forall_mem_cons.1 h
    have hfind : ∀ key ∈ rest.map (·.1), ((m.insert first.1 first.2).find? key).isNone =
        (!(key == first.1) && (m.find? key).isNone) := by
      intro key hkey
      obtain ⟨e, he, rfl⟩ := List.mem_map.1 hkey
      rw [find?_insert, hfirst, hrest e he]
      by_cases hsame : first.1 = e.1
      · simp [hsame]
      · simp [hsame, Ne.symm hsame]
    rw [insertAll_cons, ih _ hrest, keys_insert, List.filter_congr hfind, ← List.filter_filter, List.map_cons]
    cases hold : m.find? first.1 with
    | some v =>
      have hkept : (rest.map (·.1)).filter (fun key => (m.find? key).isNone) =
          ((rest.map (·.1)).filter fun key => (m.find? key).isNone).filter fun key => !(key == first.1) :=
        (List.filter_eq_self.2 fun key hkey => by
          have hnone := (List.mem_filter.1 hkey).2
          by_cases hsame : key = first.1
          · simp [hsame, hold] at hnone
          · simpa using hsame).symm
      rw [← hkept, List.filter_cons_of_neg (by simp [hold])]
      rfl
    | none =>
      rw [List.filter_cons_of_pos (by simp [hold]), List.eraseDups_cons]
      simp

theorem find?_without {name : String} {key : Scalar} (m : Mapping α) :
    (m.without name).find? key = if key.key = .text name then none else m.find? key := by
  induction m with
  | nil => simp [without]
  | cons entry rest ih =>
    obtain ⟨k, v⟩ := entry
    unfold without at ih ⊢
    by_cases hname : k.key = .text name
    · rw [List.filter_cons_of_neg (by simp [hname]), ih]
      by_cases hkey : key.key = .text name
      · rw [if_pos hkey, if_pos hkey]
      · rw [if_neg hkey, if_neg hkey, find?, if_neg (fun h => hkey (h.symm.trans hname))]
    · rw [List.filter_cons_of_pos (by simpa using hname)]
      by_cases hk : k.key = key.key
      · rw [find?, if_pos hk, if_neg (fun h => hname (hk.trans h)), find?, if_pos hk]
      · rw [find?, if_neg hk, ih, find?, if_neg hk]

end Mapping

namespace Value

/-- A value whose mappings, on all levels that keys lead to, have one entry for each key. -/
inductive Keyed : Value → Prop where
  | mapping {entries : Mapping Value} (distinct : entries.Distinct) (values : ∀ entry ∈ entries, Keyed entry.2) :
      Keyed (.mapping entries)
  | plain {v : Value} (noEntries : v.entries? = none) : Keyed v

theorem Keyed.of_mapping {entries : Mapping Value} (h : Keyed (.mapping entries)) :
    entries.Distinct ∧ ∀ entry ∈ entries, entry.2.Keyed := by
  cases h with
  | mapping distinct values => exact ⟨distinct, values⟩
  | plain noEntries => cases noEntries

end Value

end ScriptCoverage
