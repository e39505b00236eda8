import Mathlib.Data.List.Nodup
import MarkdownPager.Registry

/-!
# What registries hold

The entries of a registry have pairwise distinct keys, so looking a key up and finding an entry are
the same thing.  Reconciliation fills a new registry block by block; as long as no block repeats an
identity, an insertion puts its entry in front and touches nothing else, and the eviction that
follows finds nothing to drop.
-/

namespace MarkdownPager.Registry

universe u

variable {π : Type u}

theorem ext {left right : Registry π} (same : left.entries = right.entries) : left = right := by
  cases left
  cases right
  congr

/-- Looking a key up gives the value of its entry. -/
theorem get?_eq_some_iff (registry : Registry π) (key : NodeId) (value : π) :
    registry.get? key = some value ↔ (key, value) ∈ registry.entries := by
  rw [get?, List.lookup_eq_some_iff]
  constructor
  · rintro ⟨before, after, entries, -⟩
    rw [entries]
    exact List.mem_append_right before List.mem_cons_self
  · intro present
    obtain ⟨before, after, entries⟩ := List.append_of_mem present
    refine ⟨before, after, entries, fun entry member => ?_⟩
    have distinct := registry.nodup
    rw [entries, List.map_append, List.map_cons, List.nodup_append] at distinct
    rw [bne_iff_ne]
    exact (distinct.2.2 entry.1 (List.mem_map_of_mem member) key List.mem_cons_self).symm

/-- A key is present when an entry has it. -/
theorem contains_iff_mem (registry : Registry π) (key : NodeId) :
    registry.contains key = true ↔ key ∈ registry.entries.map (·.1) := by
  simp [contains]

/-- A key is present exactly when looking it up gives something. -/
theorem isSome_get? (registry : Registry π) (key : NodeId) :
    (registry.get? key).isSome = registry.contains key := by
  rw [Bool.eq_iff_iff, contains_iff_mem, Option.isSome_iff_exists, List.mem_map]
  constructor
  · rintro ⟨value, held⟩
    exact ⟨(key, value), (registry.get?_eq_some_iff key value).mp held, rfl⟩
  · rintro ⟨entry, member, rfl⟩
    exact ⟨entry.2, (registry.get?_eq_some_iff _ _).mpr member⟩

/-- A key that no entry has is put in front of the entries. -/
theorem entries_insert_of_notMem (registry : Registry π) {key : NodeId} (value : π)
    (absent : key ∉ registry.entries.map (·.1)) :
    (registry.insert key value).entries = (key, value) :: registry.entries := by
  rw [entries_insert, List.cons_inj_right, List.filter_eq_self]
  intro entry member
  rw [bne_iff_ne]
  rintro rfl
  exact absent (List.mem_map_of_mem member)

/-- An eviction drops nothing when every key is live. -/
theorem evictAllExcept_of_subset (registry : Registry π) {live : List NodeId}
    (subset : registry.entries.map (·.1) ⊆ live) :
    registry.evictAllExcept live = (0, registry) := by
  have all : registry.filter live.contains = registry := by
    apply ext
    rw [entries_filter, List.filter_eq_self]
    intro entry member
    rw [List.contains_iff_mem]
    exact subset (List.mem_map_of_mem member)
  rw [evictAllExcept, all, Nat.sub_self]

/-- What an eviction leaves was there before. -/
theorem mem_entries_of_mem_evictAllExcept (registry : Registry π) {live : List NodeId}
    {entry : NodeId × π} (member : entry ∈ (registry.evictAllExcept live).2.entries) :
    entry ∈ registry.entries := by
  rw [evictAllExcept, entries_filter] at member
  exact List.mem_of_mem_filter member

end MarkdownPager.Registry
