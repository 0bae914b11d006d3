import ScriptCoverage.Proofs.Config.Loading
import ScriptCoverage.Yaml.Library

/-!
# What the reader of YAML gives

The reader makes every mapping entry by entry, so that of several entries for one key the last value counts: what it
gives has one entry for each key on all levels (`Yaml.library_keyed`), as it is asked of a library.
-/

namespace ScriptCoverage.Yaml

open ScriptCoverage.Loading

namespace Node

mutual

theorem keyed_of_toValue : ∀ (node : Node) {v : Value}, node.toValue = .ok v → v.Keyed
  | .mapping nodes, v, h => by
    obtain ⟨made, hmade, h⟩ := of_bind_ok h
    cases h
    obtain ⟨hdistinct, hvalues⟩ := Mapping.distinct_ofEntries made
    exact .mapping hdistinct fun entry hentry => keyed_of_toEntries nodes hmade _ (hvalues entry hentry)
  | .sequence items, v, h => by
    obtain ⟨made, -, h⟩ := of_bind_ok h
    cases h
    exact .plain rfl
  | .plain text, v, h | .quoted text, v, h | .binary text, v, h => by
    obtain ⟨spelled, -, rfl⟩ := of_map_ok h
    exact .plain rfl

theorem keyed_of_toEntries : ∀ (nodes : List (Node × Node)) {entries : List (Scalar × Value)},
    toEntries nodes = .ok entries → ∀ v ∈ entries.map (·.2), v.Keyed
  | [], entries, h => by
    cases h
    simp
  | (key, node) :: rest, entries, h => by
    obtain ⟨k, -, h⟩ := of_bind_ok h
    obtain ⟨v, hv, h⟩ := of_bind_ok h
    obtain ⟨more, hmore, h⟩ := of_bind_ok h
    cases h
    intro w hw
    rcases List.mem_cons.1 hw with rfl | hw
    · exact keyed_of_toValue node hv
    · exact keyed_of_toEntries rest hmore w hw

end

end Node

/-- The mappings of a document have one entry for each key. -/
theorem keyed_of_read {text : Text} {v : Value} (h : read text = .ok v) : v.Keyed := by
  obtain ⟨tokens, -, h⟩ := of_bind_ok h
  obtain ⟨node, -, h⟩ := of_bind_ok h
  unfold Node.read at h
  dsimp only at h
  split at h
  · cases h
  · exact Node.keyed_of_toValue _ h

theorem library_keyed : library.Keyed := fun _ _ h => keyed_of_read (of_mapError_ok h)

end ScriptCoverage.Yaml
