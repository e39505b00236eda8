import Mathlib
import MarkdownPager.Pager.Page
import MarkdownPager.Proofs.Content
import MarkdownPager.Proofs.Reconcile

/-!
# Reusing what was rendered

A page keeps the rendering of a block for a block of the next version, which has been read anew: all
identities in it are others, its spans may have moved, and a list that is not ordered may begin with
another number.  Renderings depend on none of this, so keeping one is as good as rendering again as
long as the contents agree.

* `Reconcile.AgreesInContent` — pairs that may keep what was built have the same content.
* `Reconcile.covering_rendered` — a reconciliation of such versions shows, and registers, the
  renderings of the new blocks.
* `Renderer.content_decides_rendering` — the content alone decides, for one node and for versions.
-/

namespace MarkdownPager

namespace Reconcile

/-- The pairs that may keep what was built have the same content. -/
def AgreesInContent (current : Option Document) (new : Document) : Prop :=
  ∀ old, current = some old → ∀ (index : Nat) (before after : Node),
    old.blocks[index]? = some before → new.blocks[index]? = some after →
    keeps (strategyFor current new) index before after = true →
    before.block.erased = after.block.erased

/-- What a registry holds for the blocks of a version are their renderings. -/
def HoldsRenderings {σ : Type} (renderer : Renderer σ) (current : Option Document)
    (registry : Registry RenderedBlock) : Prop :=
  ∀ old, current = some old → ∀ block ∈ old.blocks, ∀ presented,
    registry.get? block.id = some presented → presented = renderer.render block

/-- An offer comes from a pair that may keep what was built. -/
theorem keeps_of_offer?_eq_some {π : Type} {current : Option Document} {new : Document}
    {registry : Registry π} {index : Nat} {node : Node} {presented : π}
    (offered : offer? current new registry index node = some presented) :
    ∃ old before, current = some old ∧ old.blocks[index]? = some before ∧
      registry.get? before.id = some presented ∧
      keeps (strategyFor current new) index before node = true := by
  obtain ⟨old, before, shown, partner, held, ⟨strategy, same⟩ | ⟨boundary, strategy, inside⟩⟩ :=
    offer?_eq_some offered
  · exact ⟨old, before, shown, partner, held, strategy ▸ same⟩
  · exact ⟨old, before, shown, partner, held, strategy ▸ decide_eq_true inside⟩

/-- **Reuse is safe where contents agree.**  Every block is shown, and registered, as it would be
rendered. -/
theorem covering_rendered {σ : Type} {renderer : Renderer σ} {current : Option Document}
    {new : Document} {registry : Registry RenderedBlock}
    (distinct : (new.blocks.map (·.id)).Nodup) (agrees : AgreesInContent current new)
    (holds : HoldsRenderings renderer current registry) :
    Covering (fun _ node presented => presented = renderer.render node) new.blocks
      (reconcile renderNode current new registry renderer).1.nodes
      (reconcile renderNode current new registry renderer).1.registry := by
  refine (reconcile_covering (· = renderer) _ distinct ?_ ?_ rfl).1
  · intro index node presented present offered
    obtain ⟨old, before, shown, partner, held, kept⟩ := keeps_of_offer?_eq_some offered
    have content := agrees old shown index before node partner present kept
    rw [holds old shown before (List.mem_of_getElem? partner) presented held]
    exact renderer.render_eq_of_erased content
  · rintro index node - - state rfl
    exact ⟨rfl, rfl⟩

end Reconcile

namespace Renderer

open Reconcile (AgreesInContent HoldsRenderings)

/-- **The content decides how a node is rendered.**  Nodes with the same content, that is without
their identities and spans at every depth and without the start numbers of lists that are not
ordered, have the same lines: the same segments in the same styles, the same text and the same links.

So renderings can be reused from one version to the next, whatever the strategy, if only the pairs
that keep what was built agree in content: all blocks are shown as if they were rendered anew, and
the registry holds these renderings for the next version. -/
theorem content_decides_rendering {σ : Type} (renderer : Renderer σ) :
    (∀ left right : Node, left.block.erased = right.block.erased →
      (renderer.render left).lines = (renderer.render right).lines) ∧
    ∀ (current : Option Document) (new : Document) (registry : Registry RenderedBlock),
      (new.blocks.map (·.id)).Nodup → AgreesInContent current new →
      HoldsRenderings renderer current registry →
      let result := (reconcile renderNode current new registry renderer).1
      result.nodes = new.blocks.map renderer.render ∧
        HoldsRenderings renderer (some new) result.registry := by
  refine ⟨fun left right same => congrArg _ (renderer.render_eq_of_erased same), ?_⟩
  intro current new registry distinct agrees holds result
  have covering := Reconcile.covering_rendered distinct agrees holds
  refine ⟨covering.nodes_eq_map fun _ _ _ shows => shows, ?_⟩
  rintro _ ⟨⟩ block member presented held
  obtain ⟨index, present⟩ := List.mem_iff_getElem?.mp member
  rw [covering.get?_id present] at held
  exact covering.shows_of_getElem? present held

/-- A bullet in a quote, read twice.  The second time it stands elsewhere, its nodes are others, and
its list begins with another number. -/
theorem content_decides_rendering_quoted_bullet :
    let renderer : Renderer Unit := ⟨fun _ => none, fun _ => [], .dark⟩
    let before : Node := ⟨⟨1⟩, ⟨0, 5⟩,
      .quote [⟨⟨2⟩, ⟨2, 5⟩, .list false 1 [[⟨⟨3⟩, ⟨4, 5⟩, .paragraph [.text "a"]⟩]]⟩]⟩
    let after : Node := ⟨⟨6⟩, ⟨1, 6⟩,
      .quote [⟨⟨5⟩, ⟨3, 6⟩, .list false 4 [[⟨⟨4⟩, ⟨5, 6⟩, .paragraph [.text "a"]⟩]]⟩]⟩
    let old : Document := ⟨"> - a", [before]⟩
    let new : Document := ⟨"\n> - a", [after]⟩
    let registry := Registry.empty.insert before.id (renderer.render before)
    let result := (reconcile renderNode (some old) new registry renderer).1
    before.block.erased = after.block.erased ∧
      (renderer.render before).lines = (renderer.render after).lines ∧
      (new.blocks.map (·.id)).Nodup ∧ AgreesInContent (some old) new ∧
      HoldsRenderings renderer (some old) registry ∧
      result.decisions = [.reuse 0] ∧ result.nodes = [renderer.render after] ∧
      HoldsRenderings renderer (some new) result.registry := by
  intro renderer before after old new registry result
  have same : before.block.erased = after.block.erased := rfl
  obtain ⟨lines, reuse⟩ := content_decides_rendering renderer
  have distinct : (new.blocks.map (·.id)).Nodup := by decide
  have agrees : AgreesInContent (some old) new := by
    rintro _ ⟨⟩ index left right found found' -
    cases index with
    | zero =>
        cases found
        cases found'
        exact same
    | succ index => simp [old] at found
  have holds : HoldsRenderings renderer (some old) registry := by
    rintro _ ⟨⟩ block member presented held
    obtain rfl := List.mem_singleton.mp member
    exact (Option.some.inj held).symm
  obtain ⟨nodes, next⟩ := reuse (some old) new registry distinct agrees holds
  refine ⟨same, lines before after same, distinct, agrees, holds, ?_, nodes, next⟩
  show (reconcile renderNode (some old) new registry renderer).1.decisions = [.reuse 0]
  cbv

end Renderer

end MarkdownPager
