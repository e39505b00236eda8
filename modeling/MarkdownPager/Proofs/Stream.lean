import Mathlib
import MarkdownPager.Markdown.Blocks
import MarkdownPager.Pager.Page
import MarkdownPager.Proofs.Chunks
import MarkdownPager.Proofs.Live

/-!
# What a stream shows

A streamed text is shown after each chunk, and every update extends the text before it.  So an
update keeps the blocks before the safe boundary without looking at them, and builds the others
from the longer text.  What is shown for a block in the end was therefore built from the text at
which the block was last behind the boundary.

* `lastBuilt` — that text.
* `Streamed` — the invariant: each block is shown as it was in the text that it was last built from.
* `streamInto_eq_fresh_iff` — streaming shows one thing for each block of the whole text, and agrees
  with a fresh render exactly when no block has changed since it was last built.
* `stream_stale_list` — a stream in which one has: a list that goes on behind an empty line.
-/

namespace MarkdownPager

universe u v

variable {σ : Type u} {π : Type v}

/-! ## What an extension keeps -/

namespace Reconcile

/-- The boundary is a matter of spans. -/
theorem boundaryIndex?_congr (left right : Document) (source : left.source = right.source)
    (spans : left.blocks.map (·.span) = right.blocks.map (·.span)) :
    boundaryIndex? left = boundaryIndex? right := by
  have inverted : left.blocks.any (·.span.isInverted) = right.blocks.any (·.span.isInverted) := by
    have := congrArg (·.any Span.isInverted) spans
    simpa [List.any_map, Function.comp_def] using this
  have reaches : ∀ boundary, left.blocks.findIdx? (fun node => boundary ≤ node.span.stop) =
      right.blocks.findIdx? fun node => boundary ≤ node.span.stop := by
    intro boundary
    have := congrArg (·.findIdx? fun span => boundary ≤ span.stop) spans
    simpa [List.findIdx?_map, Function.comp_def] using this
  rw [boundaryIndex?, boundaryIndex?, source, inverted]
  simp only [reaches]

/-- The number of blocks that an update keeps without looking at them. -/
def settled (old new : Document) : Nat :=
  match safeBoundary old new.source with
  | some boundary => if boundary ≤ new.blocks.length then boundary else 0
  | none => 0

theorem settled_le_length (old new : Document) : settled old new ≤ old.blocks.length := by
  rw [settled, safeBoundary]
  split
  · rename_i boundary found
    split
    · rw [Option.ite_none_right_eq_some] at found
      exact Nat.le_of_lt (lt_length_of_boundaryIndex? found.2)
    · exact Nat.zero_le _
  · exact Nat.zero_le _

/-- An extension keeps the settled blocks, or everything is rebuilt and there are none. -/
theorem strategyFor_of_strictlyExtends (old new : Document)
    (extension : strictlyExtends old.source new.source = true) :
    strategyFor (some old) new = .safeBoundary (settled old new) ∨
      strategyFor (some old) new = .rebuild ∧ settled old new = 0 := by
  rw [settled, safeBoundary, if_pos extension]
  cases found : boundaryIndex? old with
  | none =>
      right
      simp [strategyFor, extension, found]
  | some boundary =>
      have inside := lt_length_of_boundaryIndex? found
      have nonempty : old.isEmpty = false := by
        rw [Document.isEmpty, List.isEmpty_eq_false_iff, ← List.length_pos_iff]
        omega
      by_cases le : boundary ≤ new.blocks.length
      · left
        simp [strategyFor, extension, found, nonempty, le]
      · right
        simp [strategyFor, extension, found, nonempty, le]

/-- **What an extension keeps**: what the registry holds for the settled blocks. -/
theorem offer?_of_strictlyExtends (old new : Document)
    (extension : strictlyExtends old.source new.source = true) (registry : Registry π) (index : Nat)
    (node : Node) :
    offer? (some old) new registry index node =
      if index < settled old new then
        old.blocks[index]?.bind fun before => registry.get? before.id
      else none := by
  rw [offer?, Pass.offer?]
  rcases strategyFor_of_strictlyExtends old new extension with strategy | ⟨strategy, nothing⟩
  · have partner : partners (.safeBoundary (settled old new)) (some old) = old.blocks := rfl
    rw [strategy, partner, keeps_safeBoundary]
    cases old.blocks[index]? with
    | none => simp
    | some before => simp
  · rw [strategy, nothing]
    simp [partners]

end Reconcile

/-! ## Where shown blocks come from -/

section Texts

variable (reader : Markdown.Reader)

/-- The blocks of a text. -/
def blocksOf (text : String) : List Node := (Document.parse reader 1 text).1.blocks

/-- The number of blocks of `old` that an update to `text` keeps. -/
def settledBlocks (old text : String) : Nat :=
  Reconcile.settled (Document.parse reader 1 old).1 (Document.parse reader 1 text).1

/-- The text that each block was last built from, when `texts` are shown after `old` and `built`
says it for `old`. -/
def lastBuiltFrom (built : Nat → String) (old : String) : List String → Nat → String
  | [] => built
  | text :: texts =>
    lastBuiltFrom
      (fun index => if index < settledBlocks reader old text then built index else text) text texts

/-- The text that each block was last built from, when `texts` are shown one after the other. -/
def lastBuilt : List String → Nat → String
  | [] => fun _ => ""
  | text :: texts => lastBuiltFrom reader (fun _ => text) text texts

/-- What a block of a text is rendered as. -/
def rendered (renderer : Renderer σ) (text : String) (index : Nat) : Option RenderedBlock :=
  (blocksOf reader text)[index]?.map renderer.render

/-- Rendering knows no identities. -/
theorem map_render_parse (renderer : Renderer σ) (firstId : Nat) (text : String) :
    (Document.parse reader firstId text).1.blocks.map renderer.render =
      (blocksOf reader text).map renderer.render := by
  refine OfEvents.map_eq_of_placements (fun node other same => ?_)
    (Document.placements_parse reader firstId 1 text)
  exact renderer.render_eq_of_erased ((Node.erased_eq_iff _ _).mp (Prod.mk.inj same).2)

theorem map_span_parse (firstId otherId : Nat) (text : String) :
    (Document.parse reader firstId text).1.blocks.map (·.span) =
      (Document.parse reader otherId text).1.blocks.map (·.span) :=
  OfEvents.map_eq_of_placements (fun _ _ same => (Prod.mk.inj same).1)
    (Document.placements_parse reader firstId otherId text)

theorem length_blocks_parse (firstId : Nat) (text : String) :
    (Document.parse reader firstId text).1.blocks.length = (blocksOf reader text).length :=
  Document.length_blocks_parse reader firstId 1 text

theorem settled_parse (firstId otherId : Nat) (old text : String) :
    Reconcile.settled (Document.parse reader firstId old).1 (Document.parse reader otherId text).1 =
      settledBlocks reader old text := by
  have boundary := Reconcile.boundaryIndex?_congr (Document.parse reader firstId old).1
    (Document.parse reader 1 old).1 rfl (map_span_parse reader firstId 1 old)
  have length := length_blocks_parse reader otherId text
  rw [settledBlocks, Reconcile.settled, Reconcile.settled, safeBoundary, safeBoundary, boundary,
    length]
  rfl

theorem settledBlocks_le_length (firstId : Nat) (old text : String) :
    settledBlocks reader old text ≤ (Document.parse reader firstId old).1.blocks.length := by
  rw [← settled_parse reader firstId 1]
  exact Reconcile.settled_le_length _ _

end Texts

/-! ## The invariant of a stream -/

/-- What is shown for a block was built from the text that `built` says. -/
def ShowsBuilt (reader : Markdown.Reader) (renderer : Renderer σ) (built : Nat → String) :
    Nat → Node → RenderedBlock → Prop :=
  fun index _ presented => rendered reader renderer (built index) index = some presented

/-- A live document shows a text, each block as it was in the text that `built` says. -/
structure Streamed {σ : Type} (reader : Markdown.Reader) (renderer : Renderer σ)
    (built : Nat → String) (text : String) (live : LiveDocument (Renderer σ) RenderedBlock) :
    Prop where
  reader_eq : live.reader = reader
  materialize_eq : live.materialize = renderNode
  state_eq : live.state = renderer
  current : ∃ firstId, live.current = some (Document.parse reader firstId text).1 ∧
    Covering (ShowsBuilt reader renderer built) (Document.parse reader firstId text).1.blocks
      live.nodes live.registry

section Stream

variable {σ : Type} {reader : Markdown.Reader} {renderer : Renderer σ}
  {live : LiveDocument (Renderer σ) RenderedBlock}

/-- An update shows what it should, if what it keeps is right and it builds the other blocks from
its own text. -/
theorem streamed_updated (live : LiveDocument (Renderer σ) RenderedBlock)
    (materialize : live.materialize = renderNode)
    (state : live.state = renderer) {built : Nat → String} {text : String}
    (kept : ∀ index node presented,
      Reconcile.offer? live.current (Document.parse live.reader live.nextId text).1 live.registry
        index node = some presented →
      rendered live.reader renderer (built index) index = some presented)
    (new : ∀ index node,
      Reconcile.offer? live.current (Document.parse live.reader live.nextId text).1 live.registry
        index node = none → built index = text) :
    Streamed live.reader renderer built text (live.updated text) := by
  have shows : ∀ index node,
      (Document.parse live.reader live.nextId text).1.blocks[index]? = some node →
      Reconcile.offer? live.current (Document.parse live.reader live.nextId text).1 live.registry
        index node = none → ∀ state, state = renderer →
      ShowsBuilt live.reader renderer built index node (live.materialize node state).1 ∧
        (live.materialize node state).2 = renderer := by
    rintro index node present offered state rfl
    rw [materialize, ShowsBuilt, new index node offered, rendered, ← List.getElem?_map,
      ← map_render_parse _ _ live.nextId, List.getElem?_map, present]
    exact ⟨rfl, rfl⟩
  obtain ⟨covering, after⟩ := live.prepare_covering text (· = renderer)
    (fun _ => ShowsBuilt live.reader renderer built) (fun _ _ _ _ _ _ shows => shows)
    (fun index node presented _ offered _ _ => kept index node presented offered) shows state
  exact ⟨rfl, materialize, after, live.nextId, rfl, covering.evictAllExcept⟩

/-- The first text of a stream. -/
theorem streamed_start (reader : Markdown.Reader) (renderer : Renderer σ) (text : String) :
    Streamed reader renderer (fun _ => text) text
      ((LiveDocument.start reader renderNode renderer).updated text) := by
  refine streamed_updated (.start reader renderNode renderer) rfl rfl
    (fun index node presented offered => ?_) fun _ _ _ => rfl
  have nothing := (Reconcile.offer?_none _ _ index node).symm.trans offered
  cases nothing

/-- **One chunk.**  The settled blocks stay, and the others are built from the longer text. -/
theorem Streamed.updated {built : Nat → String} {old : String}
    (streamed : Streamed reader renderer built old live) {text : String}
    (extension : Reconcile.strictlyExtends old text = true) :
    Streamed reader renderer
      (fun index => if index < settledBlocks reader old text then built index else text)
      text (live.updated text) := by
  obtain rfl := streamed.reader_eq
  obtain ⟨firstId, current, covering⟩ := streamed.current
  -- The registry holds what is shown, so a settled block is offered as it is shown.
  have offer : ∀ index node,
      Reconcile.offer? live.current (Document.parse live.reader live.nextId text).1 live.registry
        index node =
        if index < settledBlocks live.reader old text then live.nodes[index]? else none := by
    intro index node
    have kept := Reconcile.offer?_of_strictlyExtends (Document.parse live.reader firstId old).1
      (Document.parse live.reader live.nextId text).1 extension live.registry index node
    rw [settled_parse] at kept
    rw [current, kept]
    split
    · rename_i settled
      have inside := Nat.lt_of_lt_of_le settled (settledBlocks_le_length _ firstId old text)
      have present := List.getElem?_eq_getElem inside
      rw [present, Option.bind_some, covering.get?_id present]
    · rfl
  refine streamed_updated live streamed.materialize_eq streamed.state_eq ?_ ?_
  · intro index node presented offered
    rw [offer, Option.ite_none_right_eq_some] at offered
    obtain ⟨settled, shown⟩ := offered
    have inside := Nat.lt_of_lt_of_le settled (settledBlocks_le_length _ firstId old text)
    rw [if_pos settled]
    exact covering.shows_of_getElem? (List.getElem?_eq_getElem inside) shown
  · intro index node offered
    rw [offer] at offered
    split at offered
    · rename_i settled
      have inside := Nat.lt_of_lt_of_le settled (settledBlocks_le_length _ firstId old text)
      rw [List.getElem?_eq_getElem (covering.length_eq ▸ inside)] at offered
      simp at offered
    · rename_i unsettled
      exact if_neg unsettled

/-- **All chunks.** -/
theorem Streamed.foldl_updated (texts : List String) :
    ∀ {built : Nat → String} {old : String} {live : LiveDocument (Renderer σ) RenderedBlock},
      Streamed reader renderer built old live →
      (old :: texts).Pairwise (fun old new => Reconcile.strictlyExtends old new) →
      Streamed reader renderer (lastBuiltFrom reader built old texts) (texts.getLast?.getD old)
        (texts.foldl LiveDocument.updated live) := by
  induction texts with
  | nil => exact fun streamed _ => streamed
  | cons text texts ih =>
      intro built old live streamed extends_
      rw [List.pairwise_cons] at extends_
      have next := streamed.updated (extends_.1 text List.mem_cons_self)
      have rest := ih next extends_.2
      rwa [List.getLast?_cons, Option.getD_some]

end Stream

/-! ## What a stream shows in the end -/

theorem streamPrefixes_eq (source : String) (stops : List Nat) :
    ∀ (stats : StreamStats) (live : LiveDocument σ π), ∃ after,
      streamPrefixes source stops stats live =
        .ok (after, (stops.map fun stop => (Text.slice? source 0 stop).getD "").foldl
          LiveDocument.updated live) := by
  induction stops with
  | nil => exact fun stats live => ⟨stats, rfl⟩
  | cons stop stops ih =>
      intro stats live
      rw [streamPrefixes, LiveDocument.update_eq]
      exact ih _ _

/-- **Streaming never fails**: it shows its texts one after the other. -/
theorem streamInto_eq (source : String) (chunk : Nat) (live : LiveDocument σ π) :
    ∃ stats, streamInto source chunk live =
      .ok (stats, (streamTexts source chunk).foldl LiveDocument.updated live) :=
  streamPrefixes_eq source (streamOffsets source chunk) {} live

theorem streamed_streamTexts {σ : Type} (reader : Markdown.Reader) (renderer : Renderer σ)
    (source : String) (chunk : Nat) :
    Streamed reader renderer (lastBuilt reader (streamTexts source chunk)) source
      ((streamTexts source chunk).foldl LiveDocument.updated
        (.start reader renderNode renderer)) := by
  have last := getLast?_streamTexts source chunk
  have nested := pairwise_streamTexts source chunk
  cases split : streamTexts source chunk with
  | nil => simp [split] at last
  | cons text texts =>
      rw [split] at last nested
      rw [List.getLast?_cons, Option.some.injEq] at last
      have streamed := (streamed_start reader renderer text).foldl_updated texts nested
      rwa [last] at streamed

/-- **When a stream shows what a fresh render shows.**  Streaming succeeds with one thing for each
block of the whole text, and what it shows for a block is the block of that index in the text that
it was last built from.  So it agrees with a fresh render exactly when every block is rendered like
that earlier one. -/
theorem streamInto_eq_fresh_iff {σ : Type} (reader : Markdown.Reader) (renderer : Renderer σ)
    (source : String) (chunk : Nat) :
    ∃ stats live, streamInto source chunk (.start reader renderNode renderer) = .ok (stats, live) ∧
      live.nodes.length = (blocksOf reader source).length ∧
      (∀ index < live.nodes.length, live.nodes[index]? =
        rendered reader renderer (lastBuilt reader (streamTexts source chunk) index) index) ∧
      ∀ firstId,
        live.nodes = (Document.parse reader firstId source).1.blocks.map renderer.render ↔
        ∀ index < (blocksOf reader source).length,
          rendered reader renderer (lastBuilt reader (streamTexts source chunk) index) index =
            rendered reader renderer source index := by
  obtain ⟨stats, streams⟩ := streamInto_eq source chunk (.start reader renderNode renderer)
  have streamed := streamed_streamTexts reader renderer source chunk
  generalize (streamTexts source chunk).foldl LiveDocument.updated
    (.start reader renderNode renderer) = live at streams streamed
  obtain ⟨firstId, -, covering⟩ := streamed.current
  have length := covering.length_eq
  rw [length_blocks_parse] at length
  have shows : ∀ index < (blocksOf reader source).length, live.nodes[index]? =
      rendered reader renderer (lastBuilt reader (streamTexts source chunk) index) index := by
    intro index inside
    have present := List.getElem?_eq_getElem (length.symm ▸ inside)
    rw [← length_blocks_parse reader firstId] at inside
    rw [present]
    exact (covering.shows_of_getElem? (List.getElem?_eq_getElem inside) present).symm
  refine ⟨stats, live, streams, length, fun index inside => shows index (length ▸ inside),
    fun otherId => ?_⟩
  rw [map_render_parse]
  constructor
  · intro fresh index inside
    rw [← shows index inside, fresh, List.getElem?_map]
    rfl
  · intro same
    refine List.ext_getElem? fun index => ?_
    by_cases inside : index < (blocksOf reader source).length
    · rw [shows index inside, same index inside, List.getElem?_map]
      rfl
    · rw [List.getElem?_eq_none (by omega), List.getElem?_eq_none (by simpa using inside)]

/-- A renderer without languages and without rules for styles. -/
def plainRenderer : Renderer Unit where
  languages _ := none
  theme _ := []
  appearance := .dark

theorem parse_item_then_paragraph (firstId : Nat) :
    Document.parse Markdown.eventsOf firstId "1. a\n\n2" =
      (⟨"1. a\n\n2",
        [⟨⟨firstId + 7⟩, ⟨0, 4⟩, .list true 1 [[⟨⟨firstId + 5⟩, ⟨3, 4⟩, .paragraph [.text "a"]⟩]]⟩,
          ⟨⟨firstId + 2⟩, ⟨6, 7⟩, .paragraph [.text "2"]⟩]⟩, firstId + 8) := by
  have events : Markdown.eventsOf "1. a\n\n2" =
      [(.opening (.list (some 1)), ⟨0, 6⟩), (.opening .item, ⟨0, 6⟩), (.leaf (.text "a"), ⟨3, 4⟩),
        (.closing, ⟨0, 6⟩), (.closing, ⟨0, 6⟩), (.opening .paragraph, ⟨6, 7⟩),
        (.leaf (.text "2"), ⟨6, 7⟩), (.closing, ⟨6, 7⟩)] := by cbv
  rw [Document.parse, events]
  rfl

theorem parse_two_items (firstId : Nat) :
    Document.parse Markdown.eventsOf firstId "1. a\n\n2. b" =
      (⟨"1. a\n\n2. b",
        [⟨⟨firstId + 11⟩, ⟨0, 10⟩,
          .list true 1 [[⟨⟨firstId + 9⟩, ⟨3, 4⟩, .paragraph [.text "a"]⟩],
            [⟨⟨firstId + 4⟩, ⟨9, 10⟩, .paragraph [.text "b"]⟩]]⟩]⟩, firstId + 12) := by
  have events : Markdown.eventsOf "1. a\n\n2. b" =
      [(.opening (.list (some 1)), ⟨0, 10⟩), (.opening .item, ⟨0, 6⟩),
        (.opening .paragraph, ⟨3, 5⟩), (.leaf (.text "a"), ⟨3, 4⟩), (.closing, ⟨3, 5⟩),
        (.closing, ⟨0, 6⟩), (.opening .item, ⟨6, 10⟩), (.opening .paragraph, ⟨9, 10⟩),
        (.leaf (.text "b"), ⟨9, 10⟩), (.closing, ⟨9, 10⟩), (.closing, ⟨6, 10⟩),
        (.closing, ⟨0, 10⟩)] := by cbv
  rw [Document.parse, events]
  rfl

/-- **A stale list.**  The second chunk turns the paragraph behind a list into the second item of
that list.  The list ended before the line break, so the stream goes on to show it with one item. -/
theorem stream_stale_list :
    let fresh :=
      (Document.parse Markdown.eventsOf 1 "1. a\n\n2. b").1.blocks.map plainRenderer.render
    ∃ stats live,
      streamInto "1. a\n\n2. b" 7 (.start Markdown.eventsOf renderNode plainRenderer) =
          .ok (stats, live) ∧
        live.nodes.map (·.plain) = ["1. a"] ∧ fresh.map (·.plain) = ["1. a\n2. b"] ∧
        live.nodes ≠ fresh := by
  intro fresh
  have texts : streamTexts "1. a\n\n2. b" 7 = ["1. a\n\n2", "1. a\n\n2. b"] := by cbv
  obtain ⟨stats, streams⟩ :=
    streamInto_eq "1. a\n\n2. b" 7 (.start Markdown.eventsOf renderNode plainRenderer)
  rw [texts] at streams
  have shown : (["1. a\n\n2", "1. a\n\n2. b"].foldl LiveDocument.updated
      (.start Markdown.eventsOf renderNode plainRenderer)).nodes.map (·.plain) = ["1. a"] := by
    simp only [List.foldl, LiveDocument.updated, LiveDocument.showing, LiveDocument.prepare,
      LiveDocument.start, parse_item_then_paragraph, parse_two_items]
    cbv
  have whole : fresh.map (·.plain) = ["1. a\n2. b"] := by
    dsimp only [fresh]
    rw [parse_two_items]
    cbv
  refine ⟨stats, _, streams, shown, whole, fun same => ?_⟩
  rw [same, whole] at shown
  simp at shown

end MarkdownPager
