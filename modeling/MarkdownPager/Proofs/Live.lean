import MarkdownPager.Live
import MarkdownPager.Proofs.Parse
import MarkdownPager.Proofs.Reconcile

/-!
# What live documents do

Every operation on a live document is put into an equation here, and what a prepared version shows
into one lemma.  Preparing counts the revision up and leaves the rest of what is visible alone;
showing a version replaces the document, the nodes and the registry together; an update is the one
followed by the other and never fails.
-/

namespace MarkdownPager

universe u v

variable {σ : Type u} {π : Type v}

/-- What a commit reports about a prepared version. -/
def PendingUpdate.applied (pending : PendingUpdate π) : Applied :=
  ⟨pending.revision, pending.result.decisions, pending.result.created, pending.result.strategy⟩

namespace LiveDocument

/-- The live document with a prepared version in place of the one that it shows. -/
def showing (live : LiveDocument σ π) (pending : PendingUpdate π) : LiveDocument σ π :=
  { live with
    current := some pending.document
    registry := (pending.result.registry.evictAllExcept
      (pending.document.blocks.map (·.id))).2
    nodes := pending.result.nodes }

/-- The live document that an update leaves. -/
def updated (live : LiveDocument σ π) (text : String) : LiveDocument σ π :=
  (live.prepare text).2.showing (live.prepare text).1

/-! ## The operations as equations -/

theorem commit_eq (live : LiveDocument σ π) (pending : PendingUpdate π) :
    live.commit pending =
      if pending.revision = live.revision then .ok (pending.applied, live.showing pending)
      else .error (.superseded pending.revision live.revision) := rfl

theorem revision_prepare (live : LiveDocument σ π) (text : String) :
    (live.prepare text).1.revision = live.revision + 1 := rfl

/-- **An update never fails.** -/
theorem update_eq (live : LiveDocument σ π) (text : String) :
    live.update text = .ok ((live.prepare text).1.applied, live.updated text) := by
  change (live.prepare text).2.commit (live.prepare text).1 = _
  rw [commit_eq]
  exact if_pos (live.revision_prepare text)

/-! ## What a prepared version shows -/

/-- The nodes of a parsed text have identities of their own, so what is known of reconciliations
applies to every version that is prepared. -/
theorem prepare_covering (live : LiveDocument σ π) (text : String) (Holds : σ → Prop)
    (Shows : σ → Nat → Node → π → Prop)
    (lasts : ∀ state, Holds state → ∀ built index node presented,
      Shows state index node presented →
        Shows (live.materialize built state).2 index node presented)
    (kept : ∀ index node presented,
      (Document.parse live.reader live.nextId text).1.blocks[index]? = some node →
      Reconcile.offer? live.current (Document.parse live.reader live.nextId text).1 live.registry
        index node = some presented → ∀ state, Holds state → Shows state index node presented)
    (built : ∀ index node,
      (Document.parse live.reader live.nextId text).1.blocks[index]? = some node →
      Reconcile.offer? live.current (Document.parse live.reader live.nextId text).1 live.registry
        index node = none → ∀ state, Holds state →
      Shows (live.materialize node state).2 index node (live.materialize node state).1 ∧
        Holds (live.materialize node state).2)
    (start : Holds live.state) :
    Covering (Shows (live.prepare text).2.state) (live.prepare text).1.document.blocks
        (live.prepare text).1.result.nodes (live.prepare text).1.result.registry ∧
      Holds (live.prepare text).2.state :=
  Reconcile.reconcile_covering_of_lasting Holds Shows lasts
    (Document.nodup_ids_parse live.reader live.nextId text) kept
    built start

/-- What may be kept comes out of the registry. -/
theorem exists_mem_registry_of_offer {current : Option Document} {new : Document}
    {registry : Registry π} {index : Nat} {node : Node} {presented : π}
    (offered : Reconcile.offer? current new registry index node = some presented) :
    ∃ entry ∈ registry.entries, entry.2 = presented := by
  obtain ⟨old, before, -, -, held, -⟩ := Reconcile.offer?_eq_some offered
  exact ⟨(before.id, presented), (registry.get?_eq_some_iff _ _).mp held, rfl⟩

end LiveDocument

end MarkdownPager
