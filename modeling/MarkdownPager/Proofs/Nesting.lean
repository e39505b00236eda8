import MarkdownPager.Document.Parse
import MarkdownPager.Proofs.Forest
import MarkdownPager.Proofs.Parse
import MarkdownPager.Proofs.Trim

/-!
# Reading follows the nesting

The readers of events share one sequence, and each stops at the first closing that nothing inside
has taken.  On the events of a forest this is always the closing of their own container: whatever a
reader takes is spelled out by trees, and each reader inside leaves exactly what is behind the tree
it was called for.

* `OfEvents.inlines_eventsOf`, `inlineRun_eventsOf`, `codeText_eventsOf`, `skipContainer_eventsOf` —
  the readers that call no reader of nodes.
* `OfEvents.container_eventsOf` — a container leaves what is behind its own closing.
* `OfEvents.reads` — the readers of nodes and items, by induction on the fuel.
* `OfEvents.nodes_follow_nesting` — the whole sequence.
* `Document.blocks_parse` — a text, if what is read in it is a shaped forest.
-/

namespace MarkdownPager

open Markdown (Event Events Leaf Tag)
open Markdown.Tree

namespace OfEvents

/-! ## Readers without nodes -/

mutual

theorem skipContainer_events : ∀ (tree : Markdown.Tree) (depth : Nat) (rest : Events),
    skipContainer depth (tree.events ++ rest) = skipContainer depth rest
  | .leaf content span, depth, rest => rfl
  | .node tag span children, depth, rest => by
      rw [events_node, List.cons_append, List.cons_append, skipContainer, List.append_assoc,
        skipContainer_eventsOf children (depth + 1), List.singleton_append, skipContainer]

/-- Skipping goes over whole trees. -/
theorem skipContainer_eventsOf : ∀ (forest : List Markdown.Tree) (depth : Nat) (rest : Events),
    skipContainer depth (eventsOf forest ++ rest) = skipContainer depth rest
  | [], depth, rest => rfl
  | tree :: forest, depth, rest => by
      rw [eventsOf_cons, List.append_assoc, skipContainer_events tree,
        skipContainer_eventsOf forest]

end

theorem codeText_leaf (content : Leaf) (span : Span) (rest : Events) :
    codeText ((.leaf content, span) :: rest) =
      ((text? (.leaf content span)).getD "" ++ (codeText rest).1, (codeText rest).2) := by
  cases content <;> simp [codeText, text?]

/-- A code block that opens nothing is read to its closing. -/
theorem codeText_eventsOf {children : List Markdown.Tree} (leaves : children.all isLeaf = true)
    (span : Span) (rest : Events) :
    codeText (eventsOf children ++ (.closing, span) :: rest) = (codeOf children, rest) := by
  induction children with
  | nil => rfl
  | cons tree children ih =>
      rw [List.all_cons, Bool.and_eq_true] at leaves
      have more := ih leaves.2
      cases tree with
      | node tag span children => exact absurd leaves.1 Bool.false_ne_true
      | leaf content span =>
          rw [eventsOf_cons, events_leaf, List.append_assoc, List.singleton_append, codeText_leaf,
            more, codeOf_cons]

/-- Whether a reader would stop here: nothing follows, or a closing. -/
def Stops (behind : Events) : Prop := ∀ entry ∈ behind.head?, entry.1 = .closing

theorem stops_nil : Stops [] := by simp [Stops]

theorem stops_closing (span : Span) (rest : Events) : Stops ((.closing, span) :: rest) := by
  simp [Stops]

theorem Stops.eq_nil_or_closing {behind : Events} (stops : Stops behind) :
    behind = [] ∨ ∃ span rest, behind = (.closing, span) :: rest := by
  cases behind with
  | nil => exact .inl rfl
  | cons entry rest =>
      obtain ⟨event, span⟩ := entry
      obtain rfl : event = .closing := stops (event, span) rfl
      exact .inr ⟨span, rest, rfl⟩

/-- An inline that is read leaves what is behind its tree. -/
theorem inlineWith_events {fuel : Nat}
    (reads : ∀ (forest : List Markdown.Tree) (behind : Events), Stops behind →
      (eventsOf forest).length < fuel →
      inlines fuel (eventsOf forest ++ behind) = (inlinesOf forest, behind.tail))
    {tree : Markdown.Tree} {event : Event} {inside : Events}
    (events : tree.events = (event, tree.span) :: inside) (enough : inside.length ≤ fuel)
    (rest : Events) :
    inlineWith (inlines fuel) event (inside ++ rest) = (tree.inline?, rest) := by
  cases tree with
  | leaf content span =>
      obtain ⟨rfl, rfl⟩ : .leaf content = event ∧ [] = inside := by simpa using events
      rfl
  | node tag span children =>
      obtain ⟨rfl, rfl⟩ : .opening tag = event ∧
          eventsOf children ++ [(.closing, span)] = inside := by
        simpa using events
      rw [List.append_assoc, List.singleton_append, inlineWith, Markdown.Tree.inline?]
      rw [List.length_append, List.length_singleton] at enough
      split
      · rw [reads children _ (stops_closing span rest) (Nat.lt_of_succ_le enough), List.tail_cons]
      · rw [skipContainer_eventsOf, skipContainer]

/-- **Inlines are read up to the closing behind the forest.** -/
theorem inlines_eventsOf (fuel : Nat) : ∀ (forest : List Markdown.Tree) (behind : Events),
    Stops behind → (eventsOf forest).length < fuel →
    inlines fuel (eventsOf forest ++ behind) = (inlinesOf forest, behind.tail) := by
  induction fuel with
  | zero => exact fun forest behind _ enough => absurd enough (Nat.not_lt_zero _)
  | succ fuel ih =>
      intro forest behind stops enough
      cases forest with
      | nil => obtain rfl | ⟨span, rest, rfl⟩ := stops.eq_nil_or_closing <;> rfl
      | cons tree forest =>
          obtain ⟨event, inside, events, -, opens⟩ := exists_events_eq_cons tree
          rw [length_eventsOf_cons events] at enough
          rw [eventsOf_cons, events, List.append_assoc, List.cons_append, inlines, if_neg opens,
            inlineWith_events ih events (by omega)]
          simp only [ih forest behind stops (by omega), inlinesOf]

/-- **A run is read up to the first event that is no running text.** -/
theorem inlineRun_eventsOf (fuel : Nat) : ∀ (run : List Markdown.Tree) (behind : Events),
    (∀ tree ∈ run, tree.isInline = true) → (∀ entry ∈ behind.head?, entry.1.isInline = false) →
    (eventsOf run).length < fuel →
    inlineRun fuel (eventsOf run ++ behind) =
      (inlinesOf run, run.head?.map (·.span.cover (run.tail.map Markdown.Tree.span)), behind) := by
  induction fuel with
  | zero => exact fun run behind _ _ enough => absurd enough (Nat.not_lt_zero _)
  | succ fuel ih =>
      intro run behind inline stops enough
      cases run with
      | nil =>
          cases behind with
          | nil => rfl
          | cons entry rest =>
              obtain ⟨event, span⟩ := entry
              have other : event.isInline = false := stops (event, span) rfl
              rw [eventsOf_nil, List.nil_append, inlineRun, if_neg (by simp [other])]
              rfl
      | cons tree run =>
          obtain ⟨event, inside, events, kind, -⟩ := exists_events_eq_cons tree
          rw [List.forall_mem_cons] at inline
          rw [length_eventsOf_cons events] at enough
          rw [eventsOf_cons, events, List.append_assoc, List.cons_append, inlineRun,
            if_pos (kind.trans inline.1),
            inlineWith_events (inlines_eventsOf fuel) events (by omega)]
          simp only [ih run behind inline.2 stops (by omega), inlinesOf]
          cases run <;> rfl

/-! ## Containers -/

/-- The readers of nodes and items with some fuel read forests of fewer events to their ends. -/
structure Reads (context : EventContext) (fuel : Nat) : Prop where
  nodes : ∀ (forest : List Markdown.Tree) (behind : Events), areShaped forest = true →
    Stops behind → (eventsOf forest).length < fuel →
    OfEvents.nodes context fuel (eventsOf forest ++ behind) =
      (nodesOf context behind.length forest, behind.tail)
  items : ∀ (children : List Markdown.Tree) (behind : Events), areItems children = true →
    Stops behind → (eventsOf children).length < fuel →
    OfEvents.items context fuel (eventsOf children ++ behind) =
      (itemsOf context behind.length children, behind.tail)

/-- **A container is read to its own closing.** -/
theorem container_eventsOf {context : EventContext} {fuel : Nat} (reads : Reads context fuel)
    {tag : Tag} {span : Span} {children : List Markdown.Tree}
    (shaped : (Markdown.Tree.node tag span children).isShaped = true) (block : tag.isInline = false)
    (enough : (eventsOf children).length < fuel) (rest : Events) :
    let read := container context (inlines fuel) (nodes context fuel) (items context fuel) tag span
      (eventsOf children ++ (.closing, span) :: rest)
    .block read.1 = part context rest.length (.node tag span children) ∧ read.2 = rest := by
  have stops := stops_closing span rest
  have number : (eventsOf children ++ (.closing, span) :: rest).length =
      (eventsOf children).length + 1 + rest.length := by
    rw [List.length_append, List.length_cons]
    omega
  have content := inlines_eventsOf fuel children _ stops enough
  cases tag with
  | paragraph =>
      refine ⟨?_, congrArg Prod.snd content⟩
      show Part.block (context.node _ span (.paragraph (inlines fuel _).1)) = _
      rw [content, EventContext.node, number, part]
  | heading level =>
      refine ⟨?_, congrArg Prod.snd content⟩
      show Part.block (context.node _ span (.heading level (inlines fuel _).1)) = _
      rw [content, EventContext.node, number, part]
  | code info =>
      have leaves : children.all isLeaf = true := shaped
      have text := codeText_eventsOf leaves span rest
      refine ⟨?_, congrArg Prod.snd text⟩
      show Part.block (context.node _ span
        (.code (Text.trim (info.getD "")) (codeLines (codeText _).1))) = _
      rw [text, EventContext.node, number, part]
  | list start =>
      have held := reads.items children _ shaped stops enough
      refine ⟨?_, congrArg Prod.snd held⟩
      show Part.block (context.node _ span
        (.list start.isSome (start.getD 1) (items context fuel _).1)) = _
      rw [held, EventContext.node, number, part, List.length_cons]
  | quote =>
      have held := reads.nodes children _ shaped stops enough
      refine ⟨?_, congrArg Prod.snd held⟩
      show Part.block (context.node _ span (.quote (nodes context fuel _).1)) = _
      rw [held, EventContext.node, number, part, List.length_cons, nodesOf]
  | item =>
      refine ⟨?_, skipContainer_eventsOf children 0 _⟩
      show Part.block (context.rawNode _ span) = _
      -- The span of a raw node is trimmed twice.
      rw [EventContext.rawNode, EventContext.node, number, EventContext.trim_trim, part]
  | other =>
      refine ⟨?_, skipContainer_eventsOf children 0 _⟩
      show Part.block (context.rawNode _ span) = _
      rw [EventContext.rawNode, EventContext.node, number, EventContext.trim_trim, part]
  | _ => exact absurd block.symm Bool.false_ne_true

/-! ## Nodes and items -/

/-- What the first tree that is no running text makes. -/
theorem firstNode_of_block {context : EventContext} {fuel : Nat} (reads : Reads context fuel)
    {tree : Markdown.Tree} (shaped : tree.isShaped = true) (block : tree.isInline = false)
    {event : Event} {inside : Events} (events : tree.events = (event, tree.span) :: inside)
    (enough : inside.length ≤ fuel) (rest : Events) : ∃ node,
      part context rest.length tree = .block node ∧
      firstNode context fuel event tree.span (inside ++ rest) = (some node, rest) := by
  cases tree with
  | leaf content span =>
      obtain ⟨rfl, rfl⟩ : .leaf content = event ∧ [] = inside := by simpa using events
      cases content with
      | rule => exact ⟨_, rfl, rfl⟩
      | html text => exact ⟨_, rfl, rfl⟩
      | _ => exact absurd block.symm Bool.false_ne_true
  | node tag span children =>
      obtain ⟨rfl, rfl⟩ : .opening tag = event ∧
          eventsOf children ++ [(.closing, span)] = inside := by
        simpa using events
      rw [List.length_append, List.length_singleton] at enough
      obtain ⟨node, behind⟩ :=
        container_eventsOf reads shaped block (Nat.lt_of_succ_le enough) rest
      refine ⟨_, node.symm, ?_⟩
      have block' : (Event.opening tag).isInline = false := block
      rw [firstNode.eq_def, if_neg (by simp [block']), List.append_assoc, List.singleton_append]
      exact Prod.ext rfl behind

/-- What a maximal run makes. -/
theorem firstNode_of_run (context : EventContext) (fuel : Nat) {tree : Markdown.Tree}
    {run : List Markdown.Tree} {behind : Events}
    (inline : ∀ member ∈ tree :: run, member.isInline = true)
    (stops : ∀ entry ∈ behind.head?, entry.1.isInline = false) {event : Event} {inside : Events}
    (events : tree.events = (event, tree.span) :: inside) (kind : event.isInline = tree.isInline)
    (enough : (eventsOf (tree :: run)).length < fuel + 1) :
    firstNode context fuel event tree.span (inside ++ (eventsOf run ++ behind)) =
      (Part.node? context (partsOf context behind.length (tree :: run)), behind) := by
  have whole : (event, tree.span) :: (inside ++ (eventsOf run ++ behind)) =
      eventsOf (tree :: run) ++ behind := by
    rw [eventsOf_cons, events, List.append_assoc, List.cons_append]
  have number : tree.events.length - 1 + ((eventsOf run).length + behind.length) =
      (inside ++ (eventsOf run ++ behind)).length := by
    rw [events, List.length_cons, List.length_append, List.length_append, Nat.add_sub_cancel]
  rw [List.forall_mem_cons] at inline
  rw [firstNode.eq_def, if_pos (kind.trans inline.1), whole,
    inlineRun_eventsOf (fuel + 1) _ behind (List.forall_mem_cons.mpr inline) stops enough,
    node?_partsOf context behind.length (List.forall_mem_cons.mpr inline), number]
  rfl

section Entries

variable {context : EventContext} {fuel : Nat} (reads : Reads context fuel) {behind : Events}
  (stops : Stops behind)

include reads stops

/-- A block is read, and then the nodes behind it. -/
theorem nodes_of_block {tree : Markdown.Tree} {forest : List Markdown.Tree}
    (block : tree.isInline = false) (shaped : areShaped (tree :: forest) = true)
    (enough : (eventsOf (tree :: forest)).length < fuel + 1) :
    nodes context (fuel + 1) (eventsOf (tree :: forest) ++ behind) =
      (nodesOf context behind.length (tree :: forest), behind.tail) := by
  obtain ⟨event, inside, events, -, opens⟩ := exists_events_eq_cons tree
  rw [areShaped, Bool.and_eq_true] at shaped
  rw [length_eventsOf_cons events] at enough
  obtain ⟨node, made, first⟩ :=
    firstNode_of_block reads shaped.1 block events (by omega) (eventsOf forest ++ behind)
  have more := reads.nodes forest behind shaped.2 stops (by omega)
  rw [List.length_append] at made
  rw [eventsOf_cons, events, List.append_assoc, List.cons_append, nodes_cons, if_neg opens,
    nodesOf_cons_of_block _ _ made]
  simp only [first, more, Option.toList_some, List.singleton_append]

/-- A maximal run is read, and then the nodes behind it. -/
theorem nodes_of_run {tree : Markdown.Tree} {run later : List Markdown.Tree}
    (inline : ∀ member ∈ tree :: run, member.isInline = true)
    (ends : ∀ next ∈ later.head?, next.isInline = false)
    (shaped : areShaped (tree :: run ++ later) = true)
    (enough : (eventsOf (tree :: run ++ later)).length < fuel + 1) :
    nodes context (fuel + 1) (eventsOf (tree :: run ++ later) ++ behind) =
      (nodesOf context behind.length (tree :: run ++ later), behind.tail) := by
  obtain ⟨event, inside, events, kind, opens⟩ := exists_events_eq_cons tree
  -- The run ends at the next tree, or at the closing behind the forest if there is none.
  have stopsHere : ∀ entry ∈ (eventsOf later ++ behind).head?, entry.1.isInline = false := by
    cases later with
    | nil =>
        intro entry head
        rw [stops entry head]
        rfl
    | cons next later =>
        obtain ⟨event, inside, events, kind, -⟩ := exists_events_eq_cons next
        rw [eventsOf_cons, events]
        simpa [kind] using ends next rfl
  rw [areShaped_append, Bool.and_eq_true] at shaped
  rw [eventsOf_append, List.length_append] at enough
  have first := firstNode_of_run context fuel inline stopsHere events kind (by omega)
  have positive := length_events_pos tree
  have shorter : (eventsOf later).length < fuel := by
    rw [eventsOf_cons, List.length_append] at enough
    omega
  have more := reads.nodes later behind shaped.2 stops shorter
  rw [List.length_append] at first
  rw [nodesOf_run context behind.length (List.cons_ne_nil tree run) inline ends, eventsOf_append,
    eventsOf_cons, events, List.append_assoc, List.append_assoc, List.cons_append, nodes_cons,
    if_neg opens]
  simp only [first, more]

/-- **Nodes are read up to the closing behind the forest.** -/
theorem nodes_eventsOf (forest : List Markdown.Tree) (shaped : areShaped forest = true)
    (enough : (eventsOf forest).length < fuel + 1) :
    nodes context (fuel + 1) (eventsOf forest ++ behind) =
      (nodesOf context behind.length forest, behind.tail) := by
  obtain ⟨run, later, rfl, inline, ends⟩ := exists_eq_run_append Markdown.Tree.isInline forest
  cases run with
  | cons tree run => exact nodes_of_run reads stops inline ends shaped enough
  | nil =>
      cases later with
      | cons tree forest => exact nodes_of_block reads stops (ends tree rfl) shaped enough
      | nil => obtain rfl | ⟨span, rest, rfl⟩ := stops.eq_nil_or_closing <;> rfl

/-- **Items are read up to the closing behind the trees of a list.** -/
theorem items_eventsOf (children : List Markdown.Tree) (shaped : areItems children = true)
    (enough : (eventsOf children).length < fuel + 1) :
    items context (fuel + 1) (eventsOf children ++ behind) =
      (itemsOf context behind.length children, behind.tail) := by
  cases children with
  | nil => obtain rfl | ⟨span, rest, rfl⟩ := stops.eq_nil_or_closing <;> rfl
  | cons tree rest =>
      cases tree with
      | leaf content span =>
          have more := reads.items rest behind shaped stops (by simpa using enough)
          rw [eventsOf_cons, events_leaf, List.append_assoc, List.singleton_append, items.eq_def]
          exact more
      | node tag span inside =>
          rw [areItems, Bool.and_eq_true, Bool.and_eq_true, beq_iff_eq] at shaped
          obtain ⟨⟨rfl, shapedInside⟩, shapedRest⟩ := shaped
          simp only [eventsOf_cons, events_node, List.length_append, List.length_cons] at enough
          have first := reads.nodes inside ((.closing, span) :: (eventsOf rest ++ behind))
            shapedInside (stops_closing _ _) (by omega)
          have more := reads.items rest behind shapedRest stops (by omega)
          rw [eventsOf_cons, events_node, List.append_assoc, List.append_assoc, List.cons_append,
            List.singleton_append, items.eq_def]
          simp only [first, List.tail_cons, more, itemsOf, List.length_cons, List.length_append,
            nodesOf]

end Entries

theorem reads (context : EventContext) (fuel : Nat) : Reads context fuel := by
  induction fuel with
  | zero =>
      exact ⟨fun _ _ _ _ enough => absurd enough (Nat.not_lt_zero _),
        fun _ _ _ _ enough => absurd enough (Nat.not_lt_zero _)⟩
  | succ fuel ih =>
      exact ⟨fun forest behind shaped stops => nodes_eventsOf ih stops forest shaped,
        fun children behind shaped stops => items_eventsOf ih stops children shaped⟩

/-! ## Counting the open containers -/

/-- Skipping with a counter of the containers that are open, the skipped one included.  It fails if
the counter were to go below zero. -/
def skipCounted : Nat → Events → Option Events
  | _, [] => some []
  | depth, (.opening _, _) :: rest => skipCounted (depth + 1) rest
  | depth, (.leaf _, _) :: rest => skipCounted depth rest
  | depth, (.closing, _) :: rest =>
    if depth = 0 then none
    else if depth - 1 = 0 then some rest
    else skipCounted (depth - 1) rest

/-- **The counter never goes below zero**, on any events, and skipping ends where it is back at
zero. -/
theorem skipCounted_succ (events : Events) :
    ∀ depth, skipCounted (depth + 1) events = some (skipContainer depth events) := by
  induction events with
  | nil => exact fun depth => rfl
  | cons entry rest ih =>
      intro depth
      obtain ⟨event, span⟩ := entry
      cases event with
      | opening tag => exact ih (depth + 1)
      | leaf content => exact ih depth
      | closing =>
          rw [skipCounted, if_neg (Nat.succ_ne_zero depth), Nat.add_sub_cancel]
          cases depth with
          | zero => rfl
          | succ depth => exact ih depth

/-! ## The whole sequence -/

section Whole

variable (context : EventContext) {forest : List Markdown.Tree} (shaped : areShaped forest = true)

include shaped

theorem nodes_whole : nodes context ((eventsOf forest).length + 1) (eventsOf forest) =
    (nodesOf context 0 forest, []) := by
  have read := (reads context _).nodes forest [] shaped stops_nil (Nat.lt_succ_self _)
  rwa [List.append_nil] at read

theorem ofEvents_eventsOf : Node.ofEvents context (eventsOf forest) = nodesOf context 0 forest := by
  rw [Node.ofEvents, nodes_whole context shaped]

end Whole

/-- **Reading follows the nesting.**  On the events of a shaped forest all events are taken, and the
nodes are those of the forest: one for each top-level block and each maximal run, in order.
Wherever a container stands, its reader leaves exactly what is behind the closing of the container,
and so does the reader of the blocks in a quote or an item, which makes the nodes of the trees
inside.  The counter of a skipped container never goes below zero. -/
theorem nodes_follow_nesting (context : EventContext) (forest : List Markdown.Tree)
    (shaped : areShaped forest = true) :
    nodes context ((eventsOf forest).length + 1) (eventsOf forest) =
      (nodesOf context 0 forest, []) ∧
    Node.ofEvents context (eventsOf forest) = nodesOf context 0 forest ∧
    (Node.ofEvents context (eventsOf forest)).length =
      ((partsOf context 0 forest).splitBy Part.together).length ∧
    (∀ (tag : Tag) (span : Span) (children : List Markdown.Tree) (rest : Events) (fuel : Nat),
      tag.isInline = false → (Markdown.Tree.node tag span children).isShaped = true →
      (eventsOf children).length < fuel →
      let read := container context (inlines fuel) (nodes context fuel) (items context fuel) tag
        span (eventsOf children ++ (.closing, span) :: rest)
      .block read.1 = part context rest.length (.node tag span children) ∧ read.2 = rest) ∧
    (∀ (children : List Markdown.Tree) (span : Span) (rest : Events) (fuel : Nat),
      areShaped children = true → (eventsOf children).length < fuel →
      nodes context fuel (eventsOf children ++ (.closing, span) :: rest) =
        (nodesOf context (rest.length + 1) children, rest)) ∧
    ∀ events, skipCounted 1 events = some (skipContainer 0 events) := by
  have made := ofEvents_eventsOf context shaped
  refine ⟨nodes_whole context shaped, made, ?_, ?_, ?_, fun events => skipCounted_succ events 0⟩
  · rw [made, nodesOf, Part.length_gather]
  · intro tag span children rest fuel block inside enough
    exact container_eventsOf (reads context fuel) inside block enough rest
  · intro children span rest fuel inside enough
    exact (reads context fuel).nodes children _ inside (stops_closing span rest) enough

/-- A tight item with a quote in it: the text before the quote is a paragraph of its own. -/
theorem nodes_follow_nesting_tight_item :
    let forest : List Markdown.Tree :=
      [.node (.list none) ⟨0, 10⟩ [.node .item ⟨0, 10⟩ [.leaf (.text "a") ⟨2, 3⟩,
        .node .quote ⟨6, 10⟩ [.node .paragraph ⟨8, 10⟩ [.leaf (.text "b") ⟨8, 9⟩]]]]]
    areShaped forest = true ∧
    Node.ofEvents (.ofSource 0 "- a\n  > b\n") (eventsOf forest) =
      [⟨⟨9⟩, ⟨0, 9⟩, .list false 1 [[⟨⟨7⟩, ⟨2, 3⟩, .paragraph [.text "a"]⟩,
        ⟨⟨6⟩, ⟨6, 9⟩, .quote [⟨⟨5⟩, ⟨8, 9⟩, .paragraph [.text "b"]⟩]⟩]]⟩] := by
  refine ⟨by decide, ?_⟩
  refine (nodes_follow_nesting _ _ (by decide)).2.1.trans ?_
  rfl

end OfEvents

/-- **A reader reads a text as a forest**: it gives the events of the forest, and the forest has the
shape that the readers of events rely on. -/
structure Markdown.Reader.Reads (reader : Markdown.Reader) (source : String)
    (forest : List Markdown.Tree) : Prop where
  events : reader source = Markdown.Tree.eventsOf forest
  shaped : areShaped forest = true

/-- **The blocks of a document are the nodes of the forest** that its text is read as. -/
theorem Document.blocks_parse {reader : Markdown.Reader} {source : String}
    {forest : List Markdown.Tree} (reads : reader.Reads source forest) (firstId : Nat) :
    (Document.parse reader firstId source).1.blocks =
      nodesOf (.ofSource firstId source) 0 forest := by
  show Node.ofEvents _ (reader source) = _
  rw [reads.events]
  exact OfEvents.ofEvents_eventsOf _ reads.shaped

end MarkdownPager
