import MarkdownPager.Document.Block

/-!
# Registries

A registry holds what was built for the nodes of a document, under their identities.  No identity
has two entries: the type carries that, so looking an entry up and counting entries agree.
-/

namespace MarkdownPager

universe u

/-- What was built for some nodes, by node identity. -/
structure Registry (π : Type u) where
  entries : List (NodeId × π)
  nodup : (entries.map (·.1)).Nodup := by simp

namespace Registry

variable {π : Type u}

/-- The registry without entries. -/
def empty : Registry π where
  entries := []

instance : Inhabited (Registry π) := ⟨empty⟩

/-- A registry without entries in which some have room.  Nothing shows how many. -/
def withCapacity (_capacity : Nat) : Registry π := empty

/-- What is held under a key. -/
def get? (registry : Registry π) (key : NodeId) : Option π :=
  registry.entries.lookup key

/-- Whether something is held under a key. -/
def contains (registry : Registry π) (key : NodeId) : Bool :=
  registry.entries.any (·.1 == key)

/-- The number of entries. -/
def size (registry : Registry π) : Nat := registry.entries.length

/-- Whether there is no entry. -/
def isEmpty (registry : Registry π) : Bool := registry.entries.isEmpty

/-- The entries whose key is accepted. -/
def filter (registry : Registry π) (accept : NodeId → Bool) : Registry π where
  entries := registry.entries.filter fun entry => accept entry.1
  nodup := by
    refine registry.nodup.sublist ?_
    exact List.filter_sublist.map _

/-- The registry with `value` under `key`, in place of what was there. -/
def insert (registry : Registry π) (key : NodeId) (value : π) : Registry π where
  entries := (key, value) :: (registry.filter (· != key)).entries
  nodup := by
    simp only [List.map_cons, List.nodup_cons]
    refine ⟨?_, (registry.filter (· != key)).nodup⟩
    simp [filter]

/-- Puts `value` under `key`; gives what was there before, too. -/
def put (registry : Registry π) (key : NodeId) (value : π) : Option π × Registry π :=
  (registry.get? key, registry.insert key value)

/-- Drops every entry whose key is not in `live`; gives the number of dropped entries, too. -/
def evictAllExcept (registry : Registry π) (live : List NodeId) : Nat × Registry π :=
  let kept := registry.filter live.contains
  (registry.size - kept.size, kept)

/-- Drops every entry. -/
def clear (_registry : Registry π) : Registry π := empty

theorem entries_filter (registry : Registry π) (accept : NodeId → Bool) :
    (registry.filter accept).entries = registry.entries.filter fun entry => accept entry.1 := rfl

theorem entries_insert (registry : Registry π) (key : NodeId) (value : π) :
    (registry.insert key value).entries =
      (key, value) :: registry.entries.filter fun entry => entry.1 != key := rfl

end Registry

end MarkdownPager
