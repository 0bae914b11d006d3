import ScriptCoverage.Session.FileTree

/-!
# Reading what was written

A file that is written changes what stands at one place, which was no directory. The way to a place leads through
directories only, so after the change every way that could be gone can be gone still (`follow_put`), and what was
written is read (`read_write`).
-/

namespace ScriptCoverage.FileTree

variable {tree after : FileTree} {place other destination : List String} {node : FileNode}

theorem node?_put (hne : other ≠ []) :
    (tree.put place node).node? other = if other = place then some node else tree.node? other := by
  simp only [node?, put, hne, if_false]
  by_cases h : other = place
  · simp [h]
  · have hcons : (other == place) = false := by simpa using h
    rw [List.lookup_cons, hcons, if_neg h]
    induction tree.nodes with
    | nil => rfl
    | cons entry rest ih =>
      obtain ⟨key, value⟩ := entry
      by_cases hkey : key = place
      · have hother : (other == key) = false := by simpa [hkey] using h
        rw [List.filter_cons_of_neg (by simpa using hkey), List.lookup_cons, hother]
        exact ih
      · rw [List.filter_cons_of_pos (by simpa using hkey), List.lookup_cons, List.lookup_cons]
        cases other == key with
        | true => rfl
        | false => exact ih

/-- What a way passes is a directory, so it does not pass the place of a file. -/
theorem follow_put (hplace : tree.node? place ≠ some .directory) {path : String} {parts : List String} :
    ∀ {start : List String}, tree.follow path start parts = .ok destination →
      (tree.put place node).follow path start parts = .ok destination := by
  induction parts with
  | nil => intro start h; exact h
  | cons part rest ih =>
    intro start h
    have hkept : tree.node? start = some .directory → (tree.put place node).node? start = some .directory := by
      intro hstart
      by_cases hroot : start = []
      · subst hroot; rfl
      · have hne : start ≠ place := fun heq => hplace (heq ▸ hstart)
        rw [node?_put hroot, if_neg hne, hstart]
    simp only [follow] at h ⊢
    cases hnode : tree.node? start with
    | none => rw [hnode] at h; cases h
    | some stands =>
      cases stands with
      | file bytes => rw [hnode] at h; cases h
      | directory =>
        rw [hkept hnode]
        rw [hnode] at h
        dsimp only at h ⊢
        split at h
        · cases h
        · rename_i hlength
          rw [if_neg hlength]
          exact ih h

/-- **Written and read.** -/
theorem read_write {cwd path : Path} {bytes : List UInt8} (h : tree.write cwd path bytes = .ok after) :
    after.read cwd path = .ok bytes := by
  unfold write at h
  cases hlocate : tree.locate cwd path with
  | error e => rw [hlocate] at h; cases h
  | ok place =>
    rw [hlocate] at h
    simp only [bind, Except.bind] at h
    have hplace : tree.node? place ≠ some .directory := by
      intro hdirectory
      rw [hdirectory] at h
      cases h
    have hafter : after = tree.put place (.file bytes) := by
      split at h
      · cases h
      · exact (Except.ok.inj h).symm
    have hlocated : after.locate cwd path = .ok place := by
      rw [hafter]
      unfold locate at hlocate ⊢
      dsimp only at hlocate ⊢
      split at hlocate
      · cases hlocate
      · rename_i hlength
        rw [if_neg hlength]
        exact follow_put hplace hlocate
    have hroot : place ≠ [] := fun heq => hplace (by rw [heq]; rfl)
    have hnode : after.node? place = some (.file bytes) := by
      rw [hafter, node?_put hroot, if_pos rfl]
    simp only [read, hlocated, bind, Except.bind, hnode]

end ScriptCoverage.FileTree
