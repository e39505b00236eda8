import Mathlib.Data.List.Forall2
import Mathlib.Data.Set.Card
import MarkdownPager.Proofs.Registry

/-!
# Histories of registries

What a registry holds is decided by what was done with it.  A key has the value that was put last,
unless the registry was cleared after that or an eviction did not spare the key (`Holds`).

A program may have several registries at once, and a copy of one of them goes its own way from the
copy on.  So the registries and their histories are kept in two rows that run side by side: making a
registry adds an empty history, changing one adds the change to its history, and copying one copies
its history, too (`registries`, `histories`).

* `holds_concat_iff` — what one more change does to a history.
* `Reflects.changed` — one change of a registry, and its history with it.
* `evictAllExcept_fst`, `encard_keys` — what is counted.
* `Step.forall₂_onRow` — what holds of each registry and its history still holds after a step.
* `registries_faithful` — every registry of a run is the finite map that its history says.
-/

namespace MarkdownPager.Registry

universe u

variable {π : Type u}

/-! ## Histories -/

/-- What changes a registry. -/
inductive Change (π : Type u) where
  | put (key : NodeId) (value : π)
  | evict (live : List NodeId)
  | clear

/-- Whether a change leaves what is held under a key. -/
def Change.Spares (key : NodeId) : Change π → Prop
  | put other _ => other ≠ key
  | evict live => key ∈ live
  | clear => False

/-- A value was put under a key, and every later change spares the key. -/
def Holds (past : List (Change π)) (key : NodeId) (value : π) : Prop :=
  ∃ before after, past = before ++ .put key value :: after ∧ ∀ change ∈ after, change.Spares key

theorem not_holds_nil (key : NodeId) (value : π) : ¬Holds [] key value := by
  rintro ⟨before, after, split, -⟩
  exact absurd split.symm (List.append_ne_nil_of_right_ne_nil _ (List.cons_ne_nil _ _))

/-- **One more change.**  It puts the value, or it spares the key and the value was there. -/
theorem holds_concat_iff {past : List (Change π)} {change : Change π} {key : NodeId} {value : π} :
    Holds (past ++ [change]) key value ↔
      change = .put key value ∨ change.Spares key ∧ Holds past key value := by
  constructor
  · rintro ⟨before, after, split, spared⟩
    rcases List.eq_nil_or_concat' after with rfl | ⟨earlier, last, rfl⟩
    · exact .inl (List.head_eq_of_cons_eq (List.append_inj' split rfl).2)
    · right
      rw [← List.cons_append, ← List.append_assoc] at split
      obtain ⟨same, isLast⟩ := List.append_inj' split rfl
      obtain rfl : change = last := List.head_eq_of_cons_eq isLast
      refine ⟨spared change (List.mem_append_right earlier List.mem_cons_self), before, earlier,
        same, fun other member => spared other (List.mem_append_left _ member)⟩
  · rintro (rfl | ⟨spares, before, after, rfl, spared⟩)
    · exact ⟨past, [], rfl, by simp⟩
    · refine ⟨before, after ++ [change], by simp, fun other member => ?_⟩
      rcases List.mem_append.mp member with earlier | last
      · exact spared other earlier
      · rwa [List.mem_singleton.mp last]

/-! ## One change -/

/-- The registry after a change. -/
def changed (registry : Registry π) : Change π → Registry π
  | .put key value => (registry.put key value).2
  | .evict live => (registry.evictAllExcept live).2
  | .clear => registry.clear

theorem get?_empty (key : NodeId) : (empty : Registry π).get? key = none := rfl

theorem get?_insert_eq_some_iff (registry : Registry π) {key other : NodeId} {value held : π} :
    (registry.insert key value).get? other = some held ↔
      (key = other ∧ value = held) ∨ key ≠ other ∧ registry.get? other = some held := by
  rw [get?_eq_some_iff, get?_eq_some_iff, entries_insert, List.mem_cons, List.mem_filter,
    bne_iff_ne, Prod.mk.injEq, and_comm (a := _ ∈ _), eq_comm (a := other), eq_comm (a := held),
    ne_comm]

theorem get?_filter_eq_some_iff (registry : Registry π) {accept : NodeId → Bool} {key : NodeId}
    {held : π} :
    (registry.filter accept).get? key = some held ↔
      accept key = true ∧ registry.get? key = some held := by
  rw [get?_eq_some_iff, get?_eq_some_iff, entries_filter, List.mem_filter, and_comm]

/-- A registry holds what its history says. -/
def Reflects (registry : Registry π) (past : List (Change π)) : Prop :=
  ∀ key value, registry.get? key = some value ↔ Holds past key value

theorem reflects_empty : Reflects (empty : Registry π) [] := by
  intro key value
  rw [get?_empty]
  exact iff_of_false (by simp) (not_holds_nil key value)

/-- **One change**, and the history with it. -/
theorem Reflects.changed {registry : Registry π} {past : List (Change π)}
    (reflects : Reflects registry past) (change : Change π) :
    Reflects (registry.changed change) (past ++ [change]) := by
  intro key value
  rw [holds_concat_iff, ← reflects key value]
  cases change with
  | put other new =>
      show (registry.insert other new).get? key = some value ↔ _
      rw [get?_insert_eq_some_iff, Change.put.injEq]
      rfl
  | evict live =>
      show (registry.filter live.contains).get? key = some value ↔ _
      rw [get?_filter_eq_some_iff, List.contains_iff_mem]
      simp [Change.Spares]
  | clear =>
      show (empty : Registry π).get? key = some value ↔ _
      rw [get?_empty]
      simp [Change.Spares]

/-! ## Counting -/

/-- **The entries are counted by their keys.** -/
theorem encard_keys (registry : Registry π) :
    {key | (registry.get? key).isSome}.encard = registry.size := by
  have keys : {key | (registry.get? key).isSome} =
      ((registry.entries.map (·.1)).toFinset : Set NodeId) := by
    ext key
    rw [Set.mem_ofPred_eq, isSome_get?, contains_iff_mem, List.coe_toFinset, Set.mem_ofPred_eq]
  rw [keys, Set.encard_coe_eq_coe_finsetCard, List.toFinset_card_of_nodup registry.nodup,
    List.length_map, size]

/-- An eviction counts the entries that are not live. -/
theorem evictAllExcept_fst (registry : Registry π) (live : List NodeId) :
    (registry.evictAllExcept live).1 = (registry.filter fun key => !live.contains key).size := by
  have parts := List.length_eq_length_filter_add (l := registry.entries)
    fun entry => live.contains entry.1
  show registry.entries.length -
      (registry.entries.filter fun entry => live.contains entry.1).length =
    (registry.entries.filter fun entry => !live.contains entry.1).length
  omega

/-- **An eviction counts the keys that it takes away**, whatever else is in the list of live
keys. -/
theorem encard_evicted (registry : Registry π) (live : List NodeId) :
    {key | (registry.get? key).isSome ∧ key ∉ live}.encard = (registry.evictAllExcept live).1 := by
  rw [evictAllExcept_fst, ← encard_keys]
  congr 1
  ext key
  simp only [Set.mem_ofPred_eq, Option.isSome_iff_exists, get?_filter_eq_some_iff]
  simp [and_comm]

/-! ## Runs -/

/-- A step of a program that has a row of registries. -/
inductive Step (π : Type u) where
  /-- Makes a registry, with room for some entries if a capacity is given. -/
  | create (capacity : Option Nat)
  /-- Changes the registry at a place of the row. -/
  | change (slot : Nat) (change : Change π)
  /-- Copies the registry at a place of the row. -/
  | clone (slot : Nat)

/-- A row after a step.  What is made and what is copied goes to the end of the row. -/
def Step.onRow {α : Type u} (make : Option Nat → α) (act : α → Change π → α) (row : List α) :
    Step π → List α
  | .create capacity => row ++ [make capacity]
  | .change slot done => row.modify slot (act · done)
  | .clone slot => row ++ row[slot]?.toList

/-- A registry as it is made. -/
def make : Option Nat → Registry π
  | none => empty
  | some capacity => withCapacity capacity

/-- The registries after some steps. -/
def registries (steps : List (Step π)) : List (Registry π) :=
  steps.foldl (Step.onRow make changed) []

/-- What was done with each of the registries, from the time on when there was none. -/
def histories (steps : List (Step π)) : List (List (Change π)) :=
  steps.foldl (Step.onRow (fun _ => []) fun past change => past ++ [change]) []

section Rows

variable {α β : Type u} {relation : α → β → Prop}

theorem forall₂_modify {left : List α} {right : List β} (related : List.Forall₂ relation left right)
    {f : α → α} {g : β → β} (kept : ∀ x y, relation x y → relation (f x) (g y)) (slot : Nat) :
    List.Forall₂ relation (left.modify slot f) (right.modify slot g) := by
  induction related generalizing slot with
  | nil => simp
  | cons head tail ih =>
      cases slot with
      | zero => exact .cons (kept _ _ head) tail
      | succ slot => exact .cons head (ih slot)

theorem forall₂_toList_getElem? {left : List α} {right : List β}
    (related : List.Forall₂ relation left right) (slot : Nat) :
    List.Forall₂ relation left[slot]?.toList right[slot]?.toList := by
  induction related generalizing slot with
  | nil => simp
  | cons head tail ih =>
      cases slot with
      | zero => exact .cons head .nil
      | succ slot => exact ih slot

variable {make : Option Nat → α} {make' : Option Nat → β} {act : α → Change π → α}
  {act' : β → Change π → β}

/-- **One step of two rows.**  A relation that a change keeps holds along the rows after the step
if it held before. -/
theorem Step.forall₂_onRow (made : ∀ capacity, relation (make capacity) (make' capacity))
    (kept : ∀ change x y, relation x y → relation (act x change) (act' y change))
    {left : List α} {right : List β} (related : List.Forall₂ relation left right) (step : Step π) :
    List.Forall₂ relation (step.onRow make act left) (step.onRow make' act' right) := by
  cases step with
  | create capacity => exact List.rel_append related (.cons (made capacity) .nil)
  | change slot done => exact forall₂_modify related (kept done) slot
  | clone slot => exact List.rel_append related (forall₂_toList_getElem? related slot)

/-- **Two rows over a run.** -/
theorem Step.forall₂_foldl_onRow (made : ∀ capacity, relation (make capacity) (make' capacity))
    (kept : ∀ change x y, relation x y → relation (act x change) (act' y change))
    (steps : List (Step π)) :
    List.Forall₂ relation (steps.foldl (Step.onRow make act) [])
      (steps.foldl (Step.onRow make' act') []) := by
  induction steps using List.reverseRecOn with
  | nil => exact .nil
  | append_singleton steps step ih =>
      rw [List.foldl_concat, List.foldl_concat]
      exact Step.forall₂_onRow made kept ih step

end Rows

/-- A registry is the finite map that a history says. -/
structure Faithful (registry : Registry π) (past : List (Change π)) : Prop where
  /-- What is held under a key is what was put there last and not taken away. -/
  get? : ∀ key value, registry.get? key = some value ↔ Holds past key value
  /-- The keys that are present are the keys under which something is held. -/
  contains : ∀ key, registry.contains key = (registry.get? key).isSome
  /-- A put gives what was held before. -/
  put : ∀ key value, (registry.put key value).1 = registry.get? key
  /-- An eviction counts the keys that are present and not live. -/
  evict : ∀ live : List NodeId,
    (registry.evictAllExcept live).1 = {key | (registry.get? key).isSome ∧ key ∉ live}.encard
  /-- The size counts the keys under which something is held. -/
  size : registry.size = {key | (registry.get? key).isSome}.encard

theorem Reflects.faithful {registry : Registry π} {past : List (Change π)}
    (reflects : Reflects registry past) : Faithful registry past where
  get? := reflects
  contains key := (registry.isSome_get? key).symm
  put _ _ := rfl
  evict live := (registry.encard_evicted live).symm
  size := registry.encard_keys.symm

theorem reflects_make (capacity : Option Nat) : Reflects (make capacity : Registry π) [] := by
  cases capacity with
  | none => exact reflects_empty
  | some capacity => exact reflects_empty

/-- **Registries are finite maps.**  After any steps there are as many histories as registries, and
every registry is the finite map that its own history says. -/
theorem registries_faithful (steps : List (Step π)) :
    List.Forall₂ Faithful (registries steps) (histories steps) := by
  have reflected : List.Forall₂ Reflects (registries steps) (histories steps) :=
    Step.forall₂_foldl_onRow reflects_make
      (fun change _ _ reflects => reflects.changed change) steps
  exact reflected.imp fun _ _ reflects => reflects.faithful

/-- What happens to a registry that was copied does not happen to the copy. -/
example : (registries [.create (some 8), .change 0 (.put ⟨1⟩ 'a'), .clone 0,
    .change 0 (.evict [⟨2⟩, ⟨2⟩])]).map (·.size) = [0, 1] := by
  decide

end MarkdownPager.Registry
