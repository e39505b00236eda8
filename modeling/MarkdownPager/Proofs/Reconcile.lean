import Mathlib.Data.List.Nodup
import MarkdownPager.Proofs.Registry
import MarkdownPager.Reconcile

/-!
# What a reconciliation shows

`reconcile` goes through the blocks of the new version once, whatever the strategy.  At each index
it either keeps what the old registry holds for the partner of the block, or builds the block.
`offer?` says which: it is what may be kept at an index, if anything.

* `reconcile_eq_align` — the three strategies are one walk, with the parameters of the strategy.
* `Covering` — what such a walk leaves behind: one shown thing for each block, and a registry that
  holds exactly these under the identities of the blocks.
* `reconcile_covering_of_lasting` — a property of shown things that holds of every offer, and of
  everything built where there is no offer, holds of the whole result.

The last one carries every later argument about single reconciliations and about runs of them: a
caller names the property and checks the two ways a block can come to be shown.
-/

namespace MarkdownPager

universe u v

variable {σ : Type u} {π : Type v}

/-! ## Coverings -/

/-- The things in `nodes` are shown for `blocks`, one for each and in their order, `registry` holds
exactly these, and each of them satisfies `Shows` at its index. -/
structure Covering (Shows : Nat → Node → π → Prop) (blocks : List Node) (nodes : List π)
    (registry : Registry π) : Prop where
  length_eq : nodes.length = blocks.length
  shows_of_getElem? : ∀ {index node presented}, blocks[index]? = some node →
    nodes[index]? = some presented → Shows index node presented
  entries_eq : registry.entries = ((blocks.map (·.id)).zip nodes).reverse

namespace Covering

variable {Shows : Nat → Node → π → Prop} {blocks : List Node} {nodes : List π}
  {registry : Registry π}

theorem empty : Covering Shows [] ([] : List π) .empty where
  length_eq := rfl
  shows_of_getElem? present := by simp at present
  entries_eq := rfl

/-- A weaker property of what is shown. -/
theorem imp (covering : Covering Shows blocks nodes registry) {Weaker : Nat → Node → π → Prop}
    (weaker : ∀ index node presented, Shows index node presented → Weaker index node presented) :
    Covering Weaker blocks nodes registry where
  length_eq := covering.length_eq
  shows_of_getElem? present shown := weaker _ _ _ (covering.shows_of_getElem? present shown)
  entries_eq := covering.entries_eq

/-- The keys of the registry are the identities of the blocks. -/
theorem map_fst_entries (covering : Covering Shows blocks nodes registry) :
    registry.entries.map (·.1) = (blocks.map (·.id)).reverse := by
  rw [covering.entries_eq, List.map_reverse, List.map_fst_zip]
  simp [covering.length_eq]

/-- The registry has one entry for each block. -/
theorem size_eq (covering : Covering Shows blocks nodes registry) :
    registry.size = blocks.length := by
  have keys := congrArg List.length covering.map_fst_entries
  rwa [List.length_map, List.length_reverse, List.length_map] at keys

/-- The registry holds for a block what is shown at its index. -/
theorem get?_id (covering : Covering Shows blocks nodes registry) {index : Nat} {node : Node}
    (present : blocks[index]? = some node) : registry.get? node.id = nodes[index]? := by
  have inside : index < nodes.length := by
    rw [covering.length_eq]
    exact (List.getElem?_eq_some_iff.mp present).1
  rw [List.getElem?_eq_getElem inside, Registry.get?_eq_some_iff, covering.entries_eq,
    List.mem_reverse]
  refine List.mem_of_getElem? (i := index) ?_
  simp [List.getElem?_zip_eq_some, present, inside]

/-- Everything in the registry is shown. -/
theorem mem_nodes_of_mem_entries (covering : Covering Shows blocks nodes registry)
    {entry : NodeId × π} (member : entry ∈ registry.entries) : entry.2 ∈ nodes := by
  rw [covering.entries_eq, List.mem_reverse] at member
  exact (List.of_mem_zip member).2

/-- Whatever is shown satisfies the property at some index. -/
theorem exists_shows_of_mem (covering : Covering Shows blocks nodes registry) {presented : π}
    (member : presented ∈ nodes) : ∃ index node, Shows index node presented := by
  obtain ⟨index, inside, rfl⟩ := List.getElem_of_mem member
  have bound : index < blocks.length := covering.length_eq ▸ inside
  exact ⟨index, blocks[index], covering.shows_of_getElem? (List.getElem?_eq_getElem bound)
    (List.getElem?_eq_getElem inside)⟩

/-- What is shown, if only one thing may be shown for each block. -/
theorem nodes_eq_map (covering : Covering Shows blocks nodes registry) {render : Node → π}
    (only : ∀ index node presented, Shows index node presented → presented = render node) :
    nodes = blocks.map render := by
  refine List.ext_getElem (by rw [covering.length_eq, List.length_map]) ?_
  intro index inNodes inMapped
  have inBlocks : index < blocks.length := covering.length_eq ▸ inNodes
  rw [List.getElem_map]
  exact only index _ _ (covering.shows_of_getElem? (List.getElem?_eq_getElem inBlocks)
    (List.getElem?_eq_getElem inNodes))

/-- One more block with an identity of its own. -/
theorem concat (covering : Covering Shows blocks nodes registry) {node : Node} {presented : π}
    (fresh : node.id ∉ blocks.map (·.id)) (holds : Shows blocks.length node presented) :
    Covering Shows (blocks ++ [node]) (nodes ++ [presented])
      (registry.insert node.id presented) where
  length_eq := by simp [covering.length_eq]
  shows_of_getElem? := by
    intro index other shown present presentShown
    rcases Nat.lt_trichotomy index blocks.length with before | rfl | behind
    · rw [List.getElem?_append_left before] at present
      rw [List.getElem?_append_left (covering.length_eq ▸ before)] at presentShown
      exact covering.shows_of_getElem? present presentShown
    · rw [List.getElem?_append_right (Nat.le_refl _), Nat.sub_self] at present
      rw [List.getElem?_append_right (Nat.le_of_eq covering.length_eq), covering.length_eq,
        Nat.sub_self] at presentShown
      simp only [List.getElem?_cons_zero, Option.some.injEq] at present presentShown
      rwa [← present, ← presentShown]
    · rw [List.getElem?_eq_none (by simp; omega)] at present
      simp at present
  entries_eq := by
    have absent : node.id ∉ registry.entries.map (·.1) := by
      rwa [covering.map_fst_entries, List.mem_reverse]
    rw [registry.entries_insert_of_notMem presented absent, covering.entries_eq, List.map_append,
      List.zip_append (by simp [covering.length_eq])]
    simp

/-- An eviction of everything but the blocks drops nothing. -/
theorem evictAllExcept (covering : Covering Shows blocks nodes registry) :
    Covering Shows blocks nodes (registry.evictAllExcept (blocks.map (·.id))).2 where
  length_eq := covering.length_eq
  shows_of_getElem? := covering.shows_of_getElem?
  entries_eq := by
    rw [registry.evictAllExcept_of_subset]
    · exact covering.entries_eq
    · rw [covering.map_fst_entries]
      exact List.reverse_subset.mpr (List.Subset.refl _)

end Covering

namespace Reconcile

/-! ## One walk for all strategies -/

/-- The way a new version is reconciled against an old one. -/
def strategyFor (current : Option Document) (new : Document) : Strategy :=
  match current with
  | none => .rebuild
  | some old =>
    if old.isEmpty then .rebuild
    else if strictlyExtends old.source new.source then
      match boundaryIndex? old with
      | some index => if index ≤ new.blocks.length then .safeBoundary index else .rebuild
      | none => .rebuild
    else .positional

/-- The boundary is the place of a block. -/
theorem lt_length_of_boundaryIndex? {old : Document} {boundary : Nat}
    (found : boundaryIndex? old = some boundary) : boundary < old.blocks.length := by
  rw [boundaryIndex?] at found
  obtain ⟨offset, -, found⟩ := Option.bind_eq_some_iff.mp found
  split at found
  · simp at found
  · exact (List.findIdx?_eq_some_iff_getElem.mp found).1

/-- What may be kept without a comparison, if the new version has as many blocks. -/
theorem strategyFor_of_safeBoundary {old new : Document} {boundary : Nat}
    (found : safeBoundary old new.source = some boundary)
    (enough : boundary ≤ new.blocks.length) :
    strategyFor (some old) new = .safeBoundary boundary := by
  obtain ⟨extension, index⟩ := Option.ite_none_right_eq_some.mp found
  have nonempty : old.isEmpty = false := by
    rw [Document.isEmpty, List.isEmpty_eq_false_iff, ← List.length_pos_iff]
    exact Nat.zero_lt_of_lt (lt_length_of_boundaryIndex? index)
  simp [strategyFor, nonempty, extension, index, enough]

/-- The old blocks that a strategy sets against the new ones. -/
def partners : Strategy → Option Document → List Node
  | .rebuild, _ => []
  | _, none => []
  | _, some old => old.blocks

/-- The pairs that may keep what was built. -/
def keeps : Strategy → Nat → Node → Node → Bool
  | .rebuild, _, _, _ => false
  | .positional, _, old, new => sameContent old new
  | .safeBoundary boundary, index, _, _ => index < boundary

theorem keeps_positional : keeps .positional = fun _ => sameContent := rfl

theorem keeps_safeBoundary (boundary : Nat) :
    keeps (.safeBoundary boundary) = fun index _ _ => decide (index < boundary) := rfl

/-- **One walk.**  A reconciliation goes through the pairs once; the strategy only decides which
old blocks take part and which pairs may keep what was built. -/
theorem reconcile_eq_align (materialize : Materializer σ π) (current : Option Document)
    (new : Document) (registry : Registry π) (state : σ) :
    reconcile materialize current new registry state =
      (Pass.align materialize registry (keeps (strategyFor current new)) 0
        (partners (strategyFor current new) current) new.blocks { state }).finish
        (strategyFor current new) := by
  cases current with
  | none =>
      simp [reconcile, rebuild, strategyFor, partners, Pass.align]
  | some old =>
      by_cases empty : old.isEmpty
      · simp [reconcile, rebuild, strategyFor, partners, Pass.align, empty]
      · by_cases extension : strictlyExtends old.source new.source
        · cases boundary : boundaryIndex? old with
          | none =>
              simp [reconcile, rebuild, strategyFor, partners, Pass.align, empty, extension,
                boundary]
          | some index =>
              by_cases inside : index ≤ new.blocks.length
              · simp [reconcile, incremental, strategyFor, partners, keeps_safeBoundary, empty,
                  extension, boundary, inside]
              · simp [reconcile, rebuild, strategyFor, partners, Pass.align, empty, extension,
                  boundary, inside]
        · simp [reconcile, positional, strategyFor, partners, keeps_positional, empty, extension]

/-- The strategy that a result reports. -/
theorem strategy_reconcile (materialize : Materializer σ π) (current : Option Document)
    (new : Document) (registry : Registry π) (state : σ) :
    (reconcile materialize current new registry state).1.strategy = strategyFor current new := by
  rw [reconcile_eq_align]
  rfl

/-! ## What the walk shows -/

/-- What may be kept at an index: what the registry holds for the old block there, if the pair may
keep it. -/
def Pass.offer? (keeps : Nat → Node → Node → Bool) (previous : Registry π) (olds : List Node)
    (index : Nat) (node : Node) : Option π :=
  match olds[index]? with
  | none => none
  | some old => if keeps index old node then previous.get? old.id else none

/-- What may be kept at an index of the new version of a document. -/
def offer? (current : Option Document) (new : Document) (registry : Registry π) :
    Nat → Node → Option π :=
  Pass.offer? (keeps (strategyFor current new)) registry
    (partners (strategyFor current new) current)

theorem partners_none (strategy : Strategy) : partners strategy none = [] := by
  cases strategy <;> rfl

/-- Without an old version there is nothing to offer. -/
theorem offer?_none (new : Document) (registry : Registry π) (index : Nat) (node : Node) :
    offer? none new registry index node = none := by
  simp [offer?, Pass.offer?, partners_none]

/-- **The two kinds of offers.**  Content that did not change, or a place before the boundary. -/
theorem offer?_eq_some {current : Option Document} {new : Document} {registry : Registry π}
    {index : Nat} {node : Node} {presented : π}
    (offered : offer? current new registry index node = some presented) :
    ∃ old before, current = some old ∧ old.blocks[index]? = some before ∧
      registry.get? before.id = some presented ∧
      (strategyFor current new = .positional ∧ sameContent before node = true ∨
        ∃ boundary, strategyFor current new = .safeBoundary boundary ∧ index < boundary) := by
  unfold offer? Pass.offer? at offered
  cases partner : (partners (strategyFor current new) current)[index]? with
  | none => simp [partner] at offered
  | some before =>
      simp only [partner, Option.ite_none_right_eq_some] at offered
      obtain ⟨kept, held⟩ := offered
      cases current with
      | none => simp [strategyFor, partners] at partner
      | some old =>
          cases strategy : strategyFor (some old) new with
          | rebuild => simp [strategy, keeps] at kept
          | positional =>
              rw [strategy] at partner kept
              exact ⟨old, before, rfl, partner, held, .inl ⟨rfl, kept⟩⟩
          | safeBoundary boundary =>
              rw [strategy] at partner kept
              exact ⟨old, before, rfl, partner, held,
                .inr ⟨boundary, rfl, by simpa [keeps] using kept⟩⟩

namespace Pass

variable {materialize : Materializer σ π} {previous : Registry π}
  {Holds : σ → Prop} {Shows : σ → Nat → Node → π → Prop} {blocks : List Node} {pass : Pass σ π}

/-- A pass has gone through `blocks`: it shows them, and `Holds` is true of the state that it
hands on to the materializer.  What is asked of the things shown may depend on that state. -/
structure Covers (Holds : σ → Prop) (Shows : σ → Nat → Node → π → Prop) (blocks : List Node)
    (pass : Pass σ π) : Prop where
  state : Holds pass.state
  covering : Covering (Shows pass.state) blocks pass.nodes pass.registry

theorem Covers.keep (covers : pass.Covers Holds Shows blocks) {node : Node} {presented : π}
    (fresh : node.id ∉ blocks.map (·.id)) (holds : Shows pass.state blocks.length node presented)
    (index : Nat) : (pass.keep index node presented).Covers Holds Shows (blocks ++ [node]) where
  state := covers.state
  covering := covers.covering.concat fresh holds

theorem Covers.remove (covers : pass.Covers Holds Shows blocks) (index : Nat) :
    (pass.remove index).Covers Holds Shows blocks where
  state := covers.state
  covering := covers.covering

/-- Old blocks without a partner leave only decisions behind. -/
theorem Covers.align_nil (keeps : Nat → Node → Node → Bool) (olds : List Node) :
    ∀ {pass : Pass σ π} (index : Nat), pass.Covers Holds Shows blocks →
      (align materialize previous keeps index olds [] pass).Covers Holds Shows blocks := by
  induction olds with
  | nil =>
      intro pass index covers
      simpa only [align, insertAll] using covers
  | cons old olds ih =>
      intro pass index covers
      rw [align]
      exact ih (index + 1) (covers.remove index)

section Walk

variable (lasts : ∀ state, Holds state → ∀ built index node presented,
    Shows state index node presented → Shows (materialize built state).2 index node presented)

include lasts in
theorem Covers.build (covers : pass.Covers Holds Shows blocks) {node : Node}
    (fresh : node.id ∉ blocks.map (·.id))
    (built : ∀ state, Holds state →
      Shows (materialize node state).2 blocks.length node (materialize node state).1 ∧
        Holds (materialize node state).2)
    (decision : Decision) :
    (pass.build materialize node decision).Covers Holds Shows (blocks ++ [node]) where
  state := (built pass.state covers.state).2
  covering := (covers.covering.imp (lasts pass.state covers.state node)).concat fresh
    (built pass.state covers.state).1

variable {after : List Node} (distinct : (after.map (·.id)).Nodup)

include distinct in
/-- The identity of the block that comes next is not yet taken. -/
theorem id_notMem_of_append {node : Node} {news : List Node}
    (split : blocks ++ node :: news = after) : node.id ∉ blocks.map (·.id) := by
  rw [← split, List.map_append, List.map_cons, List.nodup_append] at distinct
  intro taken
  exact distinct.2.2 node.id taken node.id List.mem_cons_self rfl

include lasts distinct in
/-- Blocks without a partner are all built. -/
theorem insertAll_covers (news : List Node) :
    ∀ {blocks : List Node} {pass : Pass σ π}, blocks ++ news = after →
      (∀ index node, blocks.length ≤ index → after[index]? = some node → ∀ state, Holds state →
        Shows (materialize node state).2 index node (materialize node state).1 ∧
          Holds (materialize node state).2) →
      pass.Covers Holds Shows blocks →
      (pass.insertAll materialize blocks.length news).Covers Holds Shows after := by
  induction news with
  | nil =>
      intro blocks pass split _ covers
      rw [List.append_nil] at split
      subst split
      exact covers
  | cons node news ih =>
      intro blocks pass split built covers
      rw [insertAll]
      have next : (pass.build materialize node (.insert blocks.length)).Covers Holds Shows
          (blocks ++ [node]) :=
        covers.build lasts (id_notMem_of_append distinct split)
          (built blocks.length node (Nat.le_refl _) (by simp [← split])) _
      have rest := ih (by simpa using split)
        (fun index other bound => built index other (by simp at bound; omega)) next
      simpa using rest

variable {before : List Node} {keeps : Nat → Node → Node → Bool}
  (kept : ∀ index node presented, after[index]? = some node →
    offer? keeps previous before index node = some presented → ∀ state, Holds state →
    Shows state index node presented)
  (built : ∀ index node, after[index]? = some node →
    offer? keeps previous before index node = none → ∀ state, Holds state →
    Shows (materialize node state).2 index node (materialize node state).1 ∧
      Holds (materialize node state).2)

include lasts distinct kept built in
/-- One pair: what is offered is kept, and the block is built where there is no offer. -/
theorem pair_covers (covers : pass.Covers Holds Shows blocks) {old new : Node} {news : List Node}
    (split : blocks ++ new :: news = after) (partner : before[blocks.length]? = some old) :
    (if keeps blocks.length old new then
      pass.carry materialize previous blocks.length old new
    else pass.build materialize new (.replace blocks.length)).Covers Holds Shows
      (blocks ++ [new]) := by
  have fresh := id_notMem_of_append distinct split
  have present : after[blocks.length]? = some new := by simp [← split]
  by_cases keep : keeps blocks.length old new
  · rw [if_pos keep, carry]
    have offered : offer? keeps previous before blocks.length new = previous.get? old.id := by
      simp [offer?, partner, keep]
    cases held : previous.get? old.id with
    | none => exact covers.build lasts fresh (built _ _ present (offered.trans held)) _
    | some presented =>
        exact covers.keep fresh (kept _ _ _ present (offered.trans held) _ covers.state) _
  · rw [if_neg keep]
    have offered : offer? keeps previous before blocks.length new = none := by
      simp [offer?, partner, keep]
    exact covers.build lasts fresh (built _ _ present offered) _

include lasts distinct kept built in
/-- **The whole walk.** -/
theorem align_covers (olds : List Node) :
    ∀ {blocks news : List Node} {pass : Pass σ π}, blocks ++ news = after →
      before.drop blocks.length = olds → pass.Covers Holds Shows blocks →
      (align materialize previous keeps blocks.length olds news pass).Covers Holds Shows after := by
  -- `blocks` is what the pass has gone through, and its length is the index that comes next.
  induction olds with
  | nil =>
      intro blocks news pass split through covers
      rw [align]
      refine insertAll_covers lasts distinct news split (fun index node bound present => ?_) covers
      refine built index node present ?_
      have absent : before[index]? = none := by
        rw [List.drop_eq_nil_iff] at through
        exact List.getElem?_eq_none (Nat.le_trans through bound)
      simp [offer?, absent]
  | cons old olds ih =>
      intro blocks news pass split through covers
      cases news with
      | nil =>
          rw [List.append_nil] at split
          subst split
          exact covers.align_nil keeps (old :: olds) _
      | cons new news =>
          have partner : before[blocks.length]? = some old := by
            rw [← List.head?_drop, through, List.head?_cons]
          have next := pair_covers lasts distinct kept built covers split partner
          have shifted : before.drop (blocks ++ [new]).length = olds := by
            rw [List.length_append, ← List.drop_drop, through]
            rfl
          have resplit : (blocks ++ [new]) ++ news = after := by simpa using split
          have rest := ih resplit shifted next
          simpa [align] using rest

end Walk

end Pass

/-- **What a reconciliation shows.**  A property that holds of every offer, and of everything built
where there is none, holds of all that the result shows.  The property may depend on the state of
the materializer, provided that it lasts when something else is built. -/
theorem reconcile_covering_of_lasting {materialize : Materializer σ π} {current : Option Document}
    {new : Document} {registry : Registry π} (Holds : σ → Prop)
    (Shows : σ → Nat → Node → π → Prop)
    (lasts : ∀ state, Holds state → ∀ built index node presented,
      Shows state index node presented → Shows (materialize built state).2 index node presented)
    (distinct : (new.blocks.map (·.id)).Nodup)
    (kept : ∀ index node presented, new.blocks[index]? = some node →
      offer? current new registry index node = some presented → ∀ state, Holds state →
      Shows state index node presented)
    (built : ∀ index node, new.blocks[index]? = some node →
      offer? current new registry index node = none → ∀ state, Holds state →
      Shows (materialize node state).2 index node (materialize node state).1 ∧
        Holds (materialize node state).2)
    {state : σ} (start : Holds state) :
    Covering (Shows (reconcile materialize current new registry state).2) new.blocks
        (reconcile materialize current new registry state).1.nodes
        (reconcile materialize current new registry state).1.registry ∧
      Holds (reconcile materialize current new registry state).2 := by
  have nothing : Pass.Covers Holds Shows [] ({ state } : Pass σ π) := ⟨start, .empty⟩
  have all := Pass.align_covers lasts distinct kept built _ (List.nil_append new.blocks)
    List.drop_zero nothing
  rw [reconcile_eq_align]
  exact ⟨all.covering, all.state⟩

/-- What a reconciliation shows, for a property that knows no state. -/
theorem reconcile_covering {materialize : Materializer σ π} {current : Option Document}
    {new : Document} {registry : Registry π} (Holds : σ → Prop) (Shows : Nat → Node → π → Prop)
    (distinct : (new.blocks.map (·.id)).Nodup)
    (kept : ∀ index node presented, new.blocks[index]? = some node →
      offer? current new registry index node = some presented → Shows index node presented)
    (built : ∀ index node, new.blocks[index]? = some node →
      offer? current new registry index node = none → ∀ state, Holds state →
      Shows index node (materialize node state).1 ∧ Holds (materialize node state).2)
    {state : σ} (start : Holds state) :
    Covering Shows new.blocks (reconcile materialize current new registry state).1.nodes
        (reconcile materialize current new registry state).1.registry ∧
      Holds (reconcile materialize current new registry state).2 :=
  reconcile_covering_of_lasting Holds (fun _ => Shows) (fun _ _ _ _ _ _ shows => shows) distinct
    (fun index node presented present offered _ _ => kept index node presented present offered)
    built start

end Reconcile

end MarkdownPager
