import Mathlib
import MarkdownPager.Markdown.Blocks
import MarkdownPager.Proofs.Consistency

/-!
# What an update costs

An update builds the blocks that it cannot keep.  Two kinds of updates have a cost that can be told
from the texts alone, because every block that is shown is registered.

* `update_of_safeBoundary` — a text that goes on behind the shown one keeps the blocks before the
  safe boundary and builds the others, also when it has fewer blocks than the shown text.
* `update_update` — the text that is shown already keeps everything.  All its nodes have new
  identities, but a comparison sees only their content.
-/

namespace MarkdownPager

universe u v

variable {σ : Type u} {π : Type v}

/-! ## Going on behind the shown text -/

namespace Workbench

/-- **The cost of going on.**  If the boundary of the shown document is not behind the end of a new
text, then the blocks before the boundary go on to be shown as they are, the blocks of both versions
behind it are replaced, and the rest of the longer version is inserted or removed.

There is a boundary only for a text that strictly extends the shown one, and if some block is
shown. -/
theorem update_of_safeBoundary (reader : Markdown.Reader) (materialize : Materializer σ π)
    (state : σ) (actions : List Action) {document : Document} {text : String}
    {boundary firstId : Nat}
    (current : ((start reader materialize state).run actions).live.current = some document)
    (found : safeBoundary document text = some boundary)
    (enough : boundary ≤ (Document.parse reader firstId text).1.blocks.length) :
    let live := ((start reader materialize state).run actions).live
    let before := document.blocks.length
    let after := (Document.parse reader firstId text).1.blocks.length
    ∃ applied updated, live.update text = .ok (applied, updated) ∧
      applied.strategy = .safeBoundary boundary ∧
      applied.decisions =
        (List.range boundary).map .reuse ++
        (List.range' boundary (min before after - boundary)).map .replace ++
        (List.range' before (after - before)).map .insert ++
        (List.range' after (before - after)).map .remove ∧
      applied.created = after - boundary ∧
      ∀ index < boundary, ∃ presented,
        live.nodes[index]? = some presented ∧ updated.nodes[index]? = some presented := by
  intro live before after
  have consistent : live.Consistent :=
    ((consistent_start reader materialize state).run actions).live
  have reads : live.reader = reader := reader_run actions _
  have length : (live.prepare text).1.document.blocks.length = after := by
    show (Document.parse live.reader live.nextId text).1.blocks.length = _
    rw [reads]
    exact Document.length_blocks_parse reader live.nextId firstId text
  have inNews : boundary ≤ (live.prepare text).1.document.blocks.length := by
    rw [length]
    exact enough
  have inside : boundary < before :=
    Reconcile.lt_length_of_boundaryIndex? (Option.ite_none_right_eq_some.mp found).2
  have strategy : Reconcile.strategyFor live.current (live.prepare text).1.document =
      .safeBoundary boundary := by
    rw [current]
    exact Reconcile.strategyFor_of_safeBoundary found inNews
  have olds : Reconcile.partners (.safeBoundary boundary) live.current = document.blocks := by
    rw [current]
    rfl
  have decisions := consistent.decisions_prepare text
  rw [strategy, olds, Reconcile.keeps_safeBoundary] at decisions
  refine ⟨_, _, live.update_eq text, ?_, ?_, ?_, fun index below => ?_⟩
  · exact (live.strategy_prepare text).trans strategy
  · have shape := Reconcile.decisions_boundary (Nat.le_of_lt inside) inNews
    rw [length] at shape
    exact decisions.trans shape
  · have built := Reconcile.countP_builds_decisions_boundary (Nat.le_of_lt inside) inNews
    rw [← decisions, length] at built
    exact (live.created_prepare text).trans built
  · have new := List.getElem?_eq_getElem (Nat.lt_of_lt_of_le below inNews)
    have old := List.getElem?_eq_getElem (Nat.lt_trans below inside)
    refine consistent.getElem?_nodes_prepare text new ?_
    rw [Reconcile.MayKeep, strategy, olds, Reconcile.keeps_safeBoundary]
    exact ⟨_, old, decide_eq_true below⟩

theorem parse_two_paragraphs (firstId : Nat) :
    Document.parse Markdown.eventsOf firstId "a\n\nb" =
      (⟨"a\n\nb",
        [⟨⟨firstId + 5⟩, ⟨0, 1⟩, .paragraph [.text "a"]⟩,
          ⟨⟨firstId + 2⟩, ⟨3, 4⟩, .paragraph [.text "b"]⟩]⟩, firstId + 6) := by
  have events : Markdown.eventsOf "a\n\nb" =
      [(.opening .paragraph, ⟨0, 2⟩), (.leaf (.text "a"), ⟨0, 1⟩), (.closing, ⟨0, 2⟩),
        (.opening .paragraph, ⟨3, 4⟩), (.leaf (.text "b"), ⟨3, 4⟩), (.closing, ⟨3, 4⟩)] := by cbv
  rw [Document.parse, events]
  rfl

theorem length_parse_three_paragraphs (firstId : Nat) :
    (Document.parse Markdown.eventsOf firstId "a\n\nb\n\nc").1.blocks.length = 3 := by
  have events : Markdown.eventsOf "a\n\nb\n\nc" =
      [(.opening .paragraph, ⟨0, 2⟩), (.leaf (.text "a"), ⟨0, 1⟩), (.closing, ⟨0, 2⟩),
        (.opening .paragraph, ⟨3, 5⟩), (.leaf (.text "b"), ⟨3, 4⟩), (.closing, ⟨3, 5⟩),
        (.opening .paragraph, ⟨6, 7⟩), (.leaf (.text "c"), ⟨6, 7⟩), (.closing, ⟨6, 7⟩)] := by cbv
  rw [Document.parse, events]
  rfl

/-- A third paragraph keeps the first one, whose node is shown by its identity here, and has the
second one built anew. -/
theorem update_of_safeBoundary_three_paragraphs :
    let live :=
      ((start Markdown.eventsOf (fun node state => (node.id, state)) ()).run
        [.update "a\n\nb"]).live
    (∃ document, live.current = some document ∧ safeBoundary document "a\n\nb\n\nc" = some 1) ∧
      ∃ applied updated, live.update "a\n\nb\n\nc" = .ok (applied, updated) ∧
        applied.strategy = .safeBoundary 1 ∧
        applied.decisions = [.reuse 0, .replace 1, .insert 2] ∧ applied.created = 2 ∧
        ∃ presented, live.nodes[0]? = some presented ∧ updated.nodes[0]? = some presented := by
  intro live
  have current : live.current = some (Document.parse Markdown.eventsOf 1 "a\n\nb").1 := rfl
  have found :
      safeBoundary (Document.parse Markdown.eventsOf 1 "a\n\nb").1 "a\n\nb\n\nc" = some 1 := by
    rw [parse_two_paragraphs]
    decide +kernel
  have before : (Document.parse Markdown.eventsOf 1 "a\n\nb").1.blocks.length = 2 := by
    rw [parse_two_paragraphs]
    rfl
  have after := length_parse_three_paragraphs 1
  have enough : 1 ≤ (Document.parse Markdown.eventsOf 1 "a\n\nb\n\nc").1.blocks.length := by
    rw [after]
    decide
  obtain ⟨applied, updated, succeeds, strategy, decisions, created, kept⟩ :=
    update_of_safeBoundary Markdown.eventsOf (fun node state => (node.id, state)) ()
      [.update "a\n\nb"] current found enough
  rw [before, after] at decisions
  rw [after] at created
  exact ⟨⟨_, current, found⟩, applied, updated, succeeds, strategy, decisions, created,
    kept 0 Nat.zero_lt_one⟩

end Workbench

/-! ## Showing a text again -/

theorem Block.kind_erased (block : Block) : block.erased.kind = block.kind := by
  cases block <;> rfl

/-- Two nodes that differ in their identities only, at every depth, are taken for the same. -/
theorem Reconcile.sameContent_of_placement {old new : Node}
    (same : OfEvents.placement old = OfEvents.placement new) : sameContent old new = true := by
  have erased : old.block.erased = new.block.erased :=
    (Node.erased_eq_iff old new).mp (Prod.mk.inj same).2
  have kind : old.block.kind = new.block.kind := by
    rw [← Block.kind_erased old.block, erased, Block.kind_erased]
  rw [sameContent, kind, Node.fingerprint_eq_of_erased erased]
  simp

/-- At each index, two readings of a text have the same content. -/
theorem Document.sameContent_parse {reader : Markdown.Reader} {firstId other : Nat}
    {source : String} {index : Nat} {old new : Node}
    (inOld : (Document.parse reader firstId source).1.blocks[index]? = some old)
    (inNew : (Document.parse reader other source).1.blocks[index]? = some new) :
    Reconcile.sameContent old new = true := by
  have same := congrArg (·[index]?) (Document.placements_parse reader firstId other source)
  simp only [List.getElem?_map, inOld, inNew, Option.map_some, Option.some.injEq] at same
  exact Reconcile.sameContent_of_placement same

namespace Reconcile

section Again

variable {reader : Markdown.Reader} {firstId other : Nat} {source : String}

/-- A text that is read again is compared block by block, unless there is no block. -/
theorem strategyFor_parse (nonempty : (Document.parse reader firstId source).1.isEmpty = false) :
    strategyFor (some (Document.parse reader firstId source).1)
      (Document.parse reader other source).1 = .positional := by
  have same : strictlyExtends (Document.parse reader firstId source).1.source
      (Document.parse reader other source).1.source = false := by
    simp [strictlyExtends, Document.parse]
  simp [strategyFor, nonempty, same]

/-- No block lacks a partner. -/
theorem length_partners_parse :
    (partners
      (strategyFor (some (Document.parse reader firstId source).1)
        (Document.parse reader other source).1)
      (some (Document.parse reader firstId source).1)).length =
      (Document.parse reader other source).1.blocks.length := by
  rw [Document.length_blocks_parse reader other firstId]
  cases empty : (Document.parse reader firstId source).1.isEmpty with
  | false =>
      rw [strategyFor_parse empty]
      rfl
  | true =>
      have nothing := List.isEmpty_iff.mp empty
      simp [strategyFor, empty, partners, nothing]

/-- **Every block may be kept** when a text is read again. -/
theorem mayKeep_parse {index : Nat} {node : Node}
    (present : (Document.parse reader other source).1.blocks[index]? = some node) :
    MayKeep (some (Document.parse reader firstId source).1)
      (Document.parse reader other source).1 index node := by
  have inside : index < (Document.parse reader firstId source).1.blocks.length := by
    rw [Document.length_blocks_parse reader firstId other source]
    exact (List.getElem?_eq_some_iff.mp present).1
  have old := List.getElem?_eq_getElem inside
  have nonempty : (Document.parse reader firstId source).1.isEmpty = false := by
    rw [Document.isEmpty, List.isEmpty_eq_false_iff, ← List.length_pos_iff]
    exact Nat.zero_lt_of_lt inside
  rw [MayKeep, strategyFor_parse nonempty, keeps_positional]
  exact ⟨_, old, Document.sameContent_parse old present⟩

end Again

end Reconcile

namespace LiveDocument

/-- **The cost of showing a text again is nothing.**  Take a live document with any history, and
update it twice with one text.  The second update builds nothing, and so leaves the state of the
materializer alone; it keeps every block, one after the other, and shows what was shown; and the
registry holds the new identities of the blocks, and nothing else. -/
theorem update_update (live : LiveDocument σ π) (text : String) :
    ∃ applied first again second,
      live.update text = .ok (applied, first) ∧ first.update text = .ok (again, second) ∧
      again.created = 0 ∧ second.state = first.state ∧
      again.decisions =
        (List.range (Document.parse live.reader first.nextId text).1.blocks.length).map .reuse ∧
      second.nodes = first.nodes ∧
      second.current = some (Document.parse live.reader first.nextId text).1 ∧
      ∀ key, second.registry.contains key = true ↔
        key ∈ (Document.parse live.reader first.nextId text).1.blocks.map (·.id) := by
  let first := live.updated text
  have consistent : first.Consistent := consistent_showing _ (live.consistent_prepare text)
  have shown : InStep (Document.parse live.reader live.nextId text).1 first.nodes first.registry :=
    consistent.of_some _ rfl
  have again : InStep (Document.parse live.reader first.nextId text).1 (first.updated text).nodes
      (first.updated text).registry :=
    (consistent_showing _ (first.consistent_prepare text)).of_some _ rfl
  have mayKeep : ∀ index node, (first.prepare text).1.document.blocks[index]? = some node →
      Reconcile.MayKeep first.current (first.prepare text).1.document index node :=
    fun index node present => Reconcile.mayKeep_parse present
  have decisions : (first.prepare text).1.result.decisions =
      (List.range (Document.parse live.reader first.nextId text).1.blocks.length).map .reuse := by
    rw [consistent.decisions_prepare text]
    refine Reconcile.decisions_eq_map_reuse Reconcile.length_partners_parse ?_
    intro index old new inOld inNew
    obtain ⟨partner, present, keep⟩ := mayKeep index new inNew
    obtain rfl : partner = old := Option.some.inj (present.symm.trans inOld)
    exact keep
  have created : (first.prepare text).1.result.created = 0 := by
    rw [created_prepare, decisions]
    simp [List.countP_map, Function.comp_def, Decision.builds]
  -- Both readings have the same number of blocks, whatever identities they begin with.
  have length : (first.prepare text).1.document.blocks.length = first.nodes.length := by
    rw [shown.length_eq]
    exact Document.length_blocks_parse live.reader first.nextId live.nextId text
  exact ⟨_, first, _, first.updated text, live.update_eq text, first.update_eq text, created,
    consistent.state_prepare text mayKeep, decisions, consistent.nodes_prepare text length mayKeep,
    rfl, again.contains_iff⟩

end LiveDocument

end MarkdownPager
