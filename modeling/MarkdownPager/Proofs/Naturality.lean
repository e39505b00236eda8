import Mathlib.Data.List.InsertIdx
import MarkdownPager.Proofs.Workbench

/-!
# What is built does not steer

A reconciliation decides by documents alone.  What is shown for a block is moved around but never
looked at, and the state of the materializer is only handed on.  So if one materializer is the image
of another, then whatever is done with the one is the image of what is done with the other:
`reconcile_map` for one reconciliation, `Workbench.trace_map` for runs of a live document.

This allows a question about the things shown to be answered with a materializer that marks what it
builds: forgetting the marks gives back the run that was asked about.
-/

namespace MarkdownPager

universe u v w z

variable {σ : Type u} {π : Type v} {σ' : Type w} {π' : Type z}

/-! ## Images of registries -/

namespace Registry

/-- The image of everything held. -/
def map (f : π → π') (registry : Registry π) : Registry π' where
  entries := registry.entries.map fun entry => (entry.1, f entry.2)
  nodup := by
    rw [List.map_map]
    exact registry.nodup

variable (f : π → π') (registry : Registry π)

theorem entries_map :
    (registry.map f).entries = registry.entries.map fun entry => (entry.1, f entry.2) :=
  rfl

/-- What is left as it is makes the registry its own image. -/
theorem map_id : registry.map id = registry :=
  ext (List.map_id _)

theorem get?_map (key : NodeId) : (registry.map f).get? key = (registry.get? key).map f := by
  ext value
  rw [get?_eq_some_iff, entries_map, List.mem_map, Option.map_eq_some_iff]
  constructor
  · rintro ⟨⟨other, held⟩, member, same⟩
    obtain ⟨rfl, rfl⟩ := Prod.mk.inj same
    exact ⟨held, (registry.get?_eq_some_iff _ _).mpr member, rfl⟩
  · rintro ⟨held, present, rfl⟩
    exact ⟨(key, held), (registry.get?_eq_some_iff _ _).mp present, rfl⟩

theorem filter_map (accept : NodeId → Bool) :
    (registry.map f).filter accept = (registry.filter accept).map f := by
  apply ext
  rw [entries_filter, entries_map, entries_map, List.filter_map, entries_filter]
  rfl

theorem insert_map (key : NodeId) (value : π) :
    (registry.map f).insert key (f value) = (registry.insert key value).map f := by
  apply ext
  rw [entries_insert, entries_map, entries_map, entries_insert, List.map_cons, List.filter_map]
  rfl

theorem evictAllExcept_map (live : List NodeId) :
    ((registry.map f).evictAllExcept live).2 = (registry.evictAllExcept live).2.map f :=
  registry.filter_map f live.contains

end Registry

/-- The image of everything that a reconciliation shows. -/
def Reconciliation.map (f : π → π') (result : Reconciliation π) : Reconciliation π' where
  nodes := result.nodes.map f
  decisions := result.decisions
  registry := result.registry.map f
  created := result.created
  strategy := result.strategy

theorem Reconciliation.map_id (result : Reconciliation π) : result.map id = result := by
  unfold map
  rw [List.map_id, Registry.map_id]

/-- One materializer is the image of another. -/
def IsImage (f : π → π') (g : σ → σ') (image : Materializer σ' π')
    (materialize : Materializer σ π) : Prop :=
  ∀ node state, image node (g state) = (f (materialize node state).1, g (materialize node state).2)

/-! ## Images of reconciliations -/

namespace Reconcile

namespace Pass

/-- The image of everything gathered. -/
def map (f : π → π') (g : σ → σ') (pass : Pass σ π) : Pass σ' π' where
  state := g pass.state
  nodes := pass.nodes.map f
  decisions := pass.decisions
  registry := pass.registry.map f
  created := pass.created

variable {f : π → π'} {g : σ → σ'} {image : Materializer σ' π'} {materialize : Materializer σ π}

theorem keep_map (pass : Pass σ π) (index : Nat) (node : Node) (presented : π) :
    (pass.map f g).keep index node (f presented) = (pass.keep index node presented).map f g := by
  simp [keep, map, Registry.insert_map]

variable (isImage : IsImage f g image materialize)

include isImage in
theorem build_map (pass : Pass σ π) (node : Node) (decision : Decision) :
    (pass.map f g).build image node decision = (pass.build materialize node decision).map f g := by
  simp [build, map, isImage node pass.state, Registry.insert_map]

include isImage in
theorem carry_map (previous : Registry π) (pass : Pass σ π) (index : Nat) (old new : Node) :
    (pass.map f g).carry image (previous.map f) index old new =
      (pass.carry materialize previous index old new).map f g := by
  rw [carry, carry, Registry.get?_map]
  cases previous.get? old.id with
  | none => exact build_map isImage pass new (.replace index)
  | some presented => exact keep_map pass index new presented

include isImage in
theorem insertAll_map (news : List Node) :
    ∀ (index : Nat) (pass : Pass σ π),
      (pass.map f g).insertAll image index news =
        (pass.insertAll materialize index news).map f g := by
  induction news with
  | nil =>
      intro index pass
      rfl
  | cons new news ih =>
      intro index pass
      rw [insertAll, insertAll, build_map isImage, ih]

include isImage in
theorem align_map (previous : Registry π) (keeps : Nat → Node → Node → Bool) (olds : List Node) :
    ∀ (index : Nat) (news : List Node) (pass : Pass σ π),
      (pass.map f g).align image (previous.map f) keeps index olds news =
        (pass.align materialize previous keeps index olds news).map f g := by
  induction olds with
  | nil =>
      intro index news pass
      exact insertAll_map isImage news index pass
  | cons old olds ih =>
      intro index news pass
      cases news with
      | nil => exact ih (index + 1) [] (pass.remove index)
      | cons new news =>
          rw [align, align, ← ih]
          split
          · rw [carry_map isImage]
          · rw [build_map isImage]

end Pass

/-- **The image of a reconciliation** is the reconciliation with the image. -/
theorem reconcile_map {f : π → π'} {g : σ → σ'} {image : Materializer σ' π'}
    {materialize : Materializer σ π} (isImage : IsImage f g image materialize)
    (current : Option Document) (new : Document) (registry : Registry π) (state : σ) :
    reconcile image current new (registry.map f) (g state) =
      ((reconcile materialize current new registry state).1.map f,
        g (reconcile materialize current new registry state).2) := by
  rw [reconcile_eq_align, reconcile_eq_align]
  have walk := Pass.align_map isImage registry (keeps (strategyFor current new))
    (partners (strategyFor current new) current) 0 new.blocks { state }
  exact congrArg (Pass.finish · (strategyFor current new)) walk

end Reconcile

/-! ## Images of live documents -/

/-- The image of a prepared version. -/
def PendingUpdate.map (f : π → π') (pending : PendingUpdate π) : PendingUpdate π' where
  revision := pending.revision
  document := pending.document
  result := pending.result.map f

namespace LiveDocument

/-- The image of everything shown, over a materializer that is an image. -/
def map (image : Materializer σ' π') (f : π → π') (g : σ → σ') (live : LiveDocument σ π) :
    LiveDocument σ' π' where
  reader := live.reader
  materialize := image
  state := g live.state
  current := live.current
  registry := live.registry.map f
  nodes := live.nodes.map f
  revision := live.revision
  nextId := live.nextId

variable {f : π → π'} {g : σ → σ'} {image : Materializer σ' π'} (live : LiveDocument σ π)

theorem prepare_map (isImage : IsImage f g image live.materialize) (text : String) :
    (live.map image f g).prepare text =
      ((live.prepare text).1.map f, (live.prepare text).2.map image f g) := by
  have reconciled := Reconcile.reconcile_map isImage live.current
    (Document.parse live.reader live.nextId text).1 live.registry live.state
  simp only [prepare, map, reconciled]
  rfl

theorem showing_map (pending : PendingUpdate π) :
    (live.map image f g).showing (pending.map f) = (live.showing pending).map image f g := by
  simp only [showing, map, PendingUpdate.map, Reconciliation.map, Registry.evictAllExcept_map]

theorem updated_map (isImage : IsImage f g image live.materialize) (text : String) :
    (live.map image f g).updated text = (live.updated text).map image f g := by
  rw [updated, prepare_map live isImage, showing_map]
  rfl

end LiveDocument

namespace Workbench

/-- The image of a workbench. -/
def map (image : Materializer σ' π') (f : π → π') (g : σ → σ') (bench : Workbench σ π) :
    Workbench σ' π' where
  live := bench.live.map image f g
  outstanding := bench.outstanding.map (·.map f)

variable {f : π → π'} {g : σ → σ'} {image : Materializer σ' π'}

/-- **The image of a step** is the step of the image, and it reports the same. -/
theorem step_map (bench : Workbench σ π) (isImage : IsImage f g image bench.live.materialize)
    (action : Action) :
    (bench.map image f g).step action =
      ((bench.step action).1, (bench.step action).2.map image f g) := by
  cases action with
  | prepare text => simp [step_prepare, map, LiveDocument.prepare_map _ isImage]
  | update text =>
      simp only [step_update, map, LiveDocument.prepare_map _ isImage,
        LiveDocument.updated_map _ isImage]
      rfl
  | invalidate => rfl
  | commit index =>
      have present : (bench.map image f g).outstanding[index]? =
          bench.outstanding[index]?.map (·.map f) := List.getElem?_map
      rw [step, present, step]
      cases bench.outstanding[index]? with
      | none => rfl
      | some pending =>
          simp only [Option.map_some, LiveDocument.commit_eq]
          have revisions : (pending.map f).revision = (bench.map image f g).live.revision ↔
              pending.revision = bench.live.revision := Iff.rfl
          have rest : (bench.map image f g).outstanding.eraseIdx index =
              (bench.outstanding.eraseIdx index).map (·.map f) := List.eraseIdx_map ..
          by_cases current : pending.revision = bench.live.revision
          · rw [if_pos current, if_pos (revisions.mpr current), settle, settle, rest]
            exact congrArg (fun live => (Outcome.shown pending.applied, Workbench.mk live _))
              (bench.live.showing_map pending)
          · rw [if_neg current, if_neg (mt revisions.mp current), settle, settle, rest]
            rfl

/-- **The image of a run** is the run of the image: the reports are the same, and each workbench is
the image of the one it stands for. -/
theorem trace_map (actions : List Action) :
    ∀ bench : Workbench σ π, IsImage f g image bench.live.materialize →
      (bench.map image f g).trace actions =
        (bench.trace actions).map fun step => (step.1, step.2.map image f g) := by
  induction actions with
  | nil =>
      intro bench isImage
      rfl
  | cons action actions ih =>
      intro bench isImage
      have rest := ih (bench.step action).2 ((bench.materialize_step action).symm ▸ isImage)
      rw [trace, trace, step_map bench isImage, rest, List.map_cons]

end Workbench

end MarkdownPager
