import MarkdownPager.Proofs.Decisions
import MarkdownPager.Proofs.Workbench

/-!
# What is shown is registered

A live document has three fields that must stay in step: the document, the things shown for its
blocks, and the registry that the next version takes things from.  They are replaced together when
a version is committed, and forgotten together by an invalidation; a version that is prepared has
the same three fields, in step from the beginning.  So whatever is done in whatever order, they are
in step (`consistent_run`).

Two branches of the program are never taken for that reason.  The eviction of a commit finds
nothing to drop, and a walk over the pairs never misses an entry of the registry, so every pair that
may keep what was built does keep it.
-/

namespace MarkdownPager

universe u v

variable {σ : Type u} {π : Type v}

/-- One thing is shown for each block of a document, and the registry holds for each block, under
an identity that no other block has, the very thing that is shown for it, and nothing else. -/
structure InStep (document : Document) (nodes : List π) (registry : Registry π) : Prop where
  length_eq : nodes.length = document.blocks.length
  distinct : (document.blocks.map (·.id)).Nodup
  contains_iff : ∀ key, registry.contains key = true ↔ key ∈ document.blocks.map (·.id)
  held : ∀ {index : Nat} {node : Node} {presented : π}, document.blocks[index]? = some node →
    nodes[index]? = some presented → registry.get? node.id = some presented

namespace InStep

variable {document : Document} {nodes : List π} {registry : Registry π}

theorem of_covering {Shows : Nat → Node → π → Prop}
    (covering : Covering Shows document.blocks nodes registry)
    (distinct : (document.blocks.map (·.id)).Nodup) : InStep document nodes registry where
  length_eq := covering.length_eq
  distinct := distinct
  contains_iff key := by
    rw [registry.contains_iff_mem, covering.map_fst_entries, List.mem_reverse]
  held present shown := (covering.get?_id present).trans shown

theorem contains_of_mem (inStep : InStep document nodes registry) {node : Node}
    (member : node ∈ document.blocks) : registry.contains node.id = true :=
  (inStep.contains_iff node.id).mpr (List.mem_map_of_mem member)

/-- The eviction of a commit drops nothing. -/
theorem evictAllExcept (inStep : InStep document nodes registry) :
    registry.evictAllExcept (document.blocks.map (·.id)) = (0, registry) := by
  refine registry.evictAllExcept_of_subset fun key member => ?_
  exact (inStep.contains_iff key).mp ((registry.contains_iff_mem key).mpr member)

/-- What is held for a block is shown at its index. -/
theorem get?_id (inStep : InStep document nodes registry) {index : Nat} {node : Node}
    (present : document.blocks[index]? = some node) : registry.get? node.id = nodes[index]? := by
  have inside : index < nodes.length := by
    rw [inStep.length_eq]
    exact (List.getElem?_eq_some_iff.mp present).1
  have shown : nodes[index]? = some nodes[index] := List.getElem?_eq_getElem inside
  rw [shown, inStep.held present shown]

end InStep

/-! ## Versions and live documents in step -/

/-- A prepared version is in step. -/
def PendingUpdate.Consistent (pending : PendingUpdate π) : Prop :=
  InStep pending.document pending.result.nodes pending.result.registry

namespace LiveDocument

/-- A live document is in step with the version that it can reconcile against; without one it has
nothing registered. -/
structure Consistent (live : LiveDocument σ π) : Prop where
  of_some : ∀ document, live.current = some document →
    InStep document live.nodes live.registry
  of_none : live.current = none → live.registry.isEmpty = true

/-- **Every prepared version is in step**, whatever it was prepared from. -/
theorem consistent_prepare (live : LiveDocument σ π) (text : String) :
    (live.prepare text).1.Consistent := by
  have covered := live.prepare_covering text (fun _ => True) (fun _ _ _ _ => True)
    (fun _ _ _ _ _ _ shows => shows) (fun _ _ _ _ _ _ _ => trivial)
    (fun _ _ _ _ _ _ => ⟨trivial, trivial⟩) trivial
  exact .of_covering covered.1 (Document.nodup_ids_parse live.reader live.nextId text)

/-- Showing a version that is in step. -/
theorem consistent_showing (live : LiveDocument σ π) {pending : PendingUpdate π}
    (consistent : pending.Consistent) : (live.showing pending).Consistent where
  of_some := by
    rintro document ⟨⟩
    have evicted := congrArg Prod.snd (InStep.evictAllExcept consistent)
    rw [showing, evicted]
    exact consistent
  of_none none := by simp [showing] at none

theorem consistent_start (reader : Markdown.Reader) (materialize : Materializer σ π) (state : σ) :
    (start reader materialize state).Consistent where
  of_some document shown := by simp [start] at shown
  of_none _ := rfl

/-! ## What a prepared version keeps -/

theorem strategy_prepare (live : LiveDocument σ π) (text : String) :
    (live.prepare text).1.result.strategy =
      Reconcile.strategyFor live.current (live.prepare text).1.document :=
  Reconcile.strategy_reconcile ..

theorem created_prepare (live : LiveDocument σ π) (text : String) :
    (live.prepare text).1.result.created =
      (live.prepare text).1.result.decisions.countP (·.builds) :=
  Reconcile.created_reconcile ..

section Prepare

variable {live : LiveDocument σ π} (consistent : live.Consistent)

include consistent in
/-- An old block that takes part in a walk is registered. -/
theorem Consistent.contains_partner {strategy : Strategy} {old : Node}
    (member : old ∈ Reconcile.partners strategy live.current) :
    live.registry.contains old.id = true := by
  obtain ⟨document, current, member⟩ := Reconcile.mem_partners member
  exact (consistent.of_some document current).contains_of_mem member

include consistent in
/-- A walk finds an entry for every old block, so that it never falls back to building. -/
theorem Consistent.carry_partner {strategy : Strategy} {old : Node}
    (member : old ∈ Reconcile.partners strategy live.current) (pass : Reconcile.Pass σ π)
    (index : Nat) (new : Node) :
    ∃ presented, pass.carry live.materialize live.registry index old new =
      pass.keep index new presented := by
  have present := consistent.contains_partner member
  rw [← live.registry.isSome_get?, Option.isSome_iff_exists] at present
  obtain ⟨presented, held⟩ := present
  exact ⟨presented, by rw [Reconcile.Pass.carry, held]⟩

include consistent in
/-- Whatever may be kept is registered, so only the strategy decides what is kept. -/
theorem Consistent.decisions_prepare (text : String) :
    (live.prepare text).1.result.decisions =
      Reconcile.decisions
        (Reconcile.keeps (Reconcile.strategyFor live.current (live.prepare text).1.document))
        (Reconcile.partners (Reconcile.strategyFor live.current (live.prepare text).1.document)
          live.current)
        (live.prepare text).1.document.blocks :=
  Reconcile.decisions_reconcile_of_held live.materialize live.current _ live.registry live.state
    fun _ member => consistent.contains_partner member

include consistent in
/-- What is offered for a block is what is shown at its index. -/
theorem Consistent.getElem?_nodes_of_offer {new : Document} {index : Nat} {node : Node}
    {presented : π}
    (offered : Reconcile.offer? live.current new live.registry index node = some presented) :
    live.nodes[index]? = some presented := by
  obtain ⟨document, old, current, partner, held, -⟩ := Reconcile.offer?_eq_some offered
  exact ((consistent.of_some document current).get?_id partner).symm.trans held

include consistent in
/-- For a block that may be kept there is an offer. -/
theorem Consistent.offer?_ne_none {new : Document} {index : Nat} {node : Node}
    (mayKeep : Reconcile.MayKeep live.current new index node) :
    Reconcile.offer? live.current new live.registry index node ≠ none := by
  obtain ⟨old, partner, keep⟩ := mayKeep
  have present := consistent.contains_partner (List.mem_of_getElem? partner)
  rw [← live.registry.isSome_get?] at present
  rw [Reconcile.offer?, Reconcile.Pass.offer?, partner, ← Option.isSome_iff_ne_none]
  simpa [keep] using present

include consistent in
/-- **What is kept is what is shown.**  A block that may be kept goes on to be shown as the block at
its index was. -/
theorem Consistent.getElem?_nodes_prepare (text : String) {index : Nat} {node : Node}
    (present : (live.prepare text).1.document.blocks[index]? = some node)
    (mayKeep : Reconcile.MayKeep live.current (live.prepare text).1.document index node) :
    ∃ presented, live.nodes[index]? = some presented ∧
      (live.prepare text).1.result.nodes[index]? = some presented := by
  have covered := live.prepare_covering text (fun _ => True)
    (fun _ index node presented =>
      Reconcile.MayKeep live.current (live.prepare text).1.document index node →
        live.nodes[index]? = some presented)
    (fun _ _ _ _ _ _ shows => shows)
    (fun _ _ _ _ offered _ _ _ => consistent.getElem?_nodes_of_offer offered)
    (fun _ _ _ missing _ _ =>
      ⟨fun mayKeep => absurd missing (consistent.offer?_ne_none mayKeep), trivial⟩) trivial
  have inside : index < (live.prepare text).1.result.nodes.length := by
    rw [covered.1.length_eq]
    exact (List.getElem?_eq_some_iff.mp present).1
  have shown := List.getElem?_eq_getElem inside
  exact ⟨_, covered.1.shows_of_getElem? present shown mayKeep, shown⟩

include consistent in
/-- Where every block may be kept and none is lost, everything shown stays. -/
theorem Consistent.nodes_prepare (text : String)
    (length : (live.prepare text).1.document.blocks.length = live.nodes.length)
    (mayKeep : ∀ index node, (live.prepare text).1.document.blocks[index]? = some node →
      Reconcile.MayKeep live.current (live.prepare text).1.document index node) :
    (live.prepare text).1.result.nodes = live.nodes := by
  have same : (live.prepare text).1.result.nodes.length = live.nodes.length :=
    (InStep.length_eq (live.consistent_prepare text)).trans length
  refine List.ext_getElem? fun index => ?_
  rcases Nat.lt_or_ge index live.nodes.length with inside | behind
  · have present := List.getElem?_eq_getElem (length ▸ inside)
    obtain ⟨presented, before, after⟩ :=
      consistent.getElem?_nodes_prepare text present (mayKeep index _ present)
    exact after.trans before.symm
  · rw [List.getElem?_eq_none behind, List.getElem?_eq_none (same ▸ behind)]

include consistent in
/-- Nothing is built where every block may be kept. -/
theorem Consistent.state_prepare (text : String)
    (mayKeep : ∀ index node, (live.prepare text).1.document.blocks[index]? = some node →
      Reconcile.MayKeep live.current (live.prepare text).1.document index node) :
    (live.prepare text).2.state = live.state :=
  (live.prepare_covering text (· = live.state) (fun _ _ _ _ => True)
    (fun _ _ _ _ _ _ shows => shows) (fun _ _ _ _ _ _ _ => trivial)
    (fun index node present missing _ _ =>
      absurd missing (consistent.offer?_ne_none (mayKeep index node present))) rfl).2

end Prepare

end LiveDocument

namespace Workbench

/-- The live document is in step, and so is every outstanding version. -/
structure Consistent (bench : Workbench σ π) : Prop where
  live : bench.live.Consistent
  outstanding : ∀ pending ∈ bench.outstanding, pending.Consistent

theorem consistent_start (reader : Markdown.Reader) (materialize : Materializer σ π) (state : σ) :
    (start reader materialize state).Consistent where
  live := LiveDocument.consistent_start reader materialize state
  outstanding pending member := by simp [start] at member

/-- **One action** leaves everything in step. -/
theorem Consistent.step {bench : Workbench σ π} (consistent : bench.Consistent)
    (action : Action) : (bench.step action).2.Consistent where
  outstanding := by
    intro pending member
    rcases bench.mem_outstanding_step member with before | ⟨text, -, rfl⟩
    · exact consistent.outstanding pending before
    · exact bench.live.consistent_prepare text
  live := by
    cases action with
    | prepare text => exact ⟨consistent.live.of_some, consistent.live.of_none⟩
    | update text =>
        rw [step_update]
        exact LiveDocument.consistent_showing _ (bench.live.consistent_prepare text)
    | invalidate =>
        refine ⟨fun document shown => ?_, fun _ => rfl⟩
        simp [step_invalidate, LiveDocument.invalidate] at shown
    | commit index =>
        rcases bench.step_commit_cases index with
          ⟨-, same⟩ | ⟨pending, present, -, same⟩ | ⟨_, -, -, same⟩
        · rw [same]
          exact consistent.live
        · rw [same]
          exact LiveDocument.consistent_showing _
            (consistent.outstanding pending (List.mem_of_getElem? present))
        · rw [same]
          exact consistent.live

/-- **A whole run** leaves everything in step. -/
theorem Consistent.run {bench : Workbench σ π} (consistent : bench.Consistent)
    (actions : List Action) : (bench.run actions).Consistent :=
  run_induction (fun _ consistent => consistent.step) actions consistent

/-- **In step after every run.**  The live document is consistent; whatever a commit or an update
would show next has nothing to evict; and a text that is prepared next finds every entry that it
asks the registry for, so that exactly the pairs that may keep what was built do keep it.

The materializer is any, also one that numbers what it builds, so the things held and shown are not
only equal but the same.  So is the reader of the texts. -/
theorem consistent_run (reader : Markdown.Reader) (materialize : Materializer σ π) (state : σ)
    (actions : List Action) :
    let bench := (start reader materialize state).run actions
    bench.live.Consistent ∧
    (∀ pending, (pending ∈ bench.outstanding ∨ ∃ text, pending = (bench.live.prepare text).1) →
      pending.result.registry.evictAllExcept (pending.document.blocks.map (·.id)) =
        (0, pending.result.registry)) ∧
    ∀ text,
      let prepared := (bench.live.prepare text).1
      let strategy := Reconcile.strategyFor bench.live.current prepared.document
      let olds := Reconcile.partners strategy bench.live.current
      (∀ old ∈ olds, ∀ (pass : Reconcile.Pass σ π) index new, ∃ presented,
        pass.carry bench.live.materialize bench.live.registry index old new =
          pass.keep index new presented) ∧
      prepared.result.decisions =
        Reconcile.decisions (Reconcile.keeps strategy) olds prepared.document.blocks := by
  intro bench
  have consistent : bench.Consistent := (consistent_start reader materialize state).run actions
  refine ⟨consistent.live, ?_, fun text => ⟨?_, consistent.live.decisions_prepare text⟩⟩
  · rintro pending (outstanding | ⟨text, rfl⟩)
    · exact InStep.evictAllExcept (consistent.outstanding pending outstanding)
    · exact InStep.evictAllExcept (bench.live.consistent_prepare text)
  · exact fun old member pass index new => consistent.live.carry_partner member pass index new

end Workbench

end MarkdownPager
