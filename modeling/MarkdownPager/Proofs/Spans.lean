import MarkdownPager.Markdown.Blocks
import MarkdownPager.Proofs.Nesting
import MarkdownPager.Proofs.Trim

/-!
# Where nodes stand

The nodes of one container are a level.  When the ranges of the events are nested and ordered, the
spans on every level are ordered and disjoint, and each is trimmed: this has to survive the union of
the ranges of a run and the trimming of what comes out.

`Parts.Keep` is what carries it.  It runs along the parts of a container from one place to the next,
and says of each part that it stands between them; `keep_gather` turns it into a statement about
nodes, once for all containers.

A node that was made of a skipped container holds the source it stands for.  Which node that is is
told by its number, since a node has as many events behind it as its number says.

* `keep_parts` — the parts of placed trees stand one behind the other.
* `spans_of_placed` — every level of the nodes of placed trees.
* `isTrimmed_of_mem_nodes` — the nodes of any events at all, which is why no block of a document has
  an inverted span.
* `spans_overlap_without_item` — placed trees that have not the shape, and two blocks that overlap.
-/

namespace MarkdownPager

open Markdown (Events Tag)
open Markdown.Tree (eventsOf areShaped partsOf itemsOf nodesOf)

/-! ## Placed trees -/

namespace Markdown.Tree

mutual

/-- Whether the range of a tree lies on character boundaries of the source, and the ranges inside
it are placed inside it. -/
def IsPlaced (source : String) : Tree → Prop
  | .leaf _ span =>
    span.start ≤ span.stop ∧ Text.IsBoundary source span.start ∧ Text.IsBoundary source span.stop
  | .node _ span children =>
    span.start ≤ span.stop ∧ Text.IsBoundary source span.start ∧
      Text.IsBoundary source span.stop ∧ ArePlaced source span.start span.stop children

/-- Whether the ranges of trees are placed, ordered and disjoint, from `low` to `high`. -/
def ArePlaced (source : String) (low high : Nat) : List Tree → Prop
  | [] => low ≤ high
  | tree :: rest =>
    low ≤ tree.span.start ∧ tree.IsPlaced source ∧ ArePlaced source tree.span.stop high rest

end

mutual

instance decidableIsPlaced (source : String) : (tree : Tree) → Decidable (tree.IsPlaced source)
  | .leaf _ span =>
    inferInstanceAs (Decidable (span.start ≤ span.stop ∧ Text.IsBoundary source span.start ∧
      Text.IsBoundary source span.stop))
  | .node _ span children =>
    have := decidableArePlaced source span.start span.stop children
    inferInstanceAs (Decidable (span.start ≤ span.stop ∧ Text.IsBoundary source span.start ∧
      Text.IsBoundary source span.stop ∧ ArePlaced source span.start span.stop children))

instance decidableArePlaced (source : String) (low high : Nat) :
    (forest : List Tree) → Decidable (ArePlaced source low high forest)
  | [] => inferInstanceAs (Decidable (low ≤ high))
  | tree :: rest =>
    have := decidableIsPlaced source tree
    have := decidableArePlaced source tree.span.stop high rest
    inferInstanceAs (Decidable (low ≤ tree.span.start ∧ tree.IsPlaced source ∧
      ArePlaced source tree.span.stop high rest))

end

end Markdown.Tree

/-! ## Levels -/

mutual

/-- The levels in the content of a block. -/
def Block.levels : Block → List (List Node)
  | .list _ _ items => Node.levelsOfItems items
  | .quote children => children :: Node.levelsBelow children
  | .paragraph _ | .heading .. | .code .. | .rule | .raw _ => []

/-- The levels in a node. -/
def Node.levels : Node → List (List Node)
  | { block, .. } => block.levels

/-- The levels in the nodes of a level. -/
def Node.levelsBelow : List Node → List (List Node)
  | [] => []
  | node :: rest => node.levels ++ Node.levelsBelow rest

/-- The levels in list items, of which each is a level itself. -/
def Node.levelsOfItems : List (List Node) → List (List Node)
  | [] => []
  | item :: rest => item :: Node.levelsBelow item ++ Node.levelsOfItems rest

end

/-- A level from `low` to `high`: its nodes stand one behind the other. -/
structure IsLevel (low high : Nat) (level : List Node) : Prop where
  le : low ≤ high
  low_le : ∀ node ∈ level, low ≤ node.span.start
  le_high : ∀ node ∈ level, node.span.stop ≤ high
  pairwise : level.Pairwise fun left right => left.span.stop ≤ right.span.start

theorem IsLevel.nil {low high : Nat} (le : low ≤ high) : IsLevel low high [] :=
  ⟨le, by simp, by simp, .nil⟩

theorem IsLevel.cons {low middle high : Nat} {node : Node} {rest : List Node}
    (low_le : low ≤ node.span.start) (ordered : node.span.start ≤ node.span.stop)
    (le_middle : node.span.stop ≤ middle) (level : IsLevel middle high rest) :
    IsLevel low high (node :: rest) where
  le := by
    have := level.le
    omega
  low_le other member := by
    rcases List.mem_cons.mp member with rfl | later
    · exact low_le
    · have := level.low_le other later
      omega
  le_high other member := by
    rcases List.mem_cons.mp member with rfl | later
    · exact Nat.le_trans le_middle level.le
    · exact level.le_high other later
  pairwise := List.pairwise_cons.mpr
    ⟨fun other later => Nat.le_trans le_middle (level.low_le other later), level.pairwise⟩

section Keep

variable (context : EventContext) (all : Events)

/-- What a node of a sequence keeps: its span is trimmed, and if it shows text and was begun by an
opening, the text is the source it stands for. -/
structure Node.Keeps (node : Node) : Prop where
  trimmed : EventContext.IsTrimmed context.bytes node.span
  source : ∀ (before after : Events) (tag : Tag) (span : Span) (text : String),
    all = before ++ (.opening tag, span) :: after → node.id = ⟨context.firstId + after.length⟩ →
    node.block = .raw text →
    Text.slice? context.source node.span.start node.span.stop = some text

/-- What a level keeps. -/
def LevelKeeps (level : List Node) : Prop :=
  (∃ low high, IsLevel low high level) ∧ ∀ node ∈ level, node.Keeps context all

/-- What a part between two places keeps. -/
def Part.Keeps (low high : Nat) : Part → Prop
  | .running _ span _ => low ≤ span.start ∧ span.start ≤ span.stop ∧ span.stop ≤ high
  | .block node =>
    low ≤ node.span.start ∧ node.span.stop ≤ high ∧ node.Keeps context all ∧
      ∀ level ∈ node.levels, LevelKeeps context all level

/-- What parts keep that stand one behind the other, from `low` to `high`. -/
inductive Parts.Keep : Nat → Nat → List Part → Prop
  | nil {low high : Nat} (le : low ≤ high) : Keep low high []
  | cons {low middle high : Nat} {part : Part} {rest : List Part}
      (first : part.Keeps context all low middle) (more : Keep middle high rest) :
      Keep low high (part :: rest)

end Keep

section Gather

variable {context : EventContext} {all : Events}

theorem Node.Keeps.of_not_raw {node : Node}
    (trimmed : EventContext.IsTrimmed context.bytes node.span)
    (other : ∀ text, node.block ≠ .raw text) : node.Keeps context all where
  trimmed := trimmed
  source _ _ _ _ text _ _ raw := absurd raw (other text)

theorem Part.Keeps.le {low high : Nat} {part : Part} (keeps : part.Keeps context all low high) :
    low ≤ high := by
  cases part with
  | running id span inline => exact Nat.le_trans keeps.1 (Nat.le_trans keeps.2.1 keeps.2.2)
  | block node => exact Nat.le_trans keeps.1 (Nat.le_trans keeps.2.2.1.trimmed.ordered keeps.2.1)

/-- A part may as well be told to stand behind an earlier place. -/
theorem Part.Keeps.of_le {low lower high : Nat} {part : Part} (le : lower ≤ low)
    (keeps : part.Keeps context all low high) : part.Keeps context all lower high := by
  cases part with
  | running id span inline => exact ⟨Nat.le_trans le keeps.1, keeps.2⟩
  | block node => exact ⟨Nat.le_trans le keeps.1, keeps.2⟩

theorem Parts.Keep.le {low high : Nat} {parts : List Part}
    (keep : Parts.Keep context all low high parts) : low ≤ high := by
  induction keep with
  | nil le => exact le
  | cons first more ih => exact Nat.le_trans first.le ih

/-- The union of the ranges of a run stands where the run does. -/
theorem Parts.Keep.cover {high : Nat} {id : NodeId} {inline : Option Inline} {parts : List Part} :
    ∀ {more : List Part} {low : Nat} {span : Span},
      Parts.Keep context all low high (.running id span inline :: more ++ parts) →
      (∀ part ∈ more, part.isRunning = true) → ∃ middle,
        let covered := span.cover (more.filterMap Part.span?)
        low ≤ covered.start ∧ covered.start ≤ covered.stop ∧ covered.stop ≤ middle ∧
          Parts.Keep context all middle high parts
  | [], low, span, .cons first keep, _ => ⟨_, first.1, first.2.1, first.2.2, keep⟩
  | .block node :: more, low, span, _, running => absurd (running _ List.mem_cons_self) nofun
  | .running id' next inline' :: more, low, span, .cons first keep, running => by
      obtain ⟨start, ordered, stop⟩ := first
      obtain ⟨middle, start', ordered', stop', rest⟩ :=
        Parts.Keep.cover keep fun part later => running part (List.mem_cons_of_mem _ later)
      refine ⟨middle, ?_, ?_, ?_, rest⟩
      all_goals simp only [List.filterMap_cons, Part.span?, Span.cover, Span.union] at *
      · omega
      · omega
      · omega

/-- **What parts keep, the nodes that are gathered from them keep.** -/
theorem keep_gather {high : Nat} (inside : high ≤ context.bytes.size) (parts : List Part) :
    ∀ low, Parts.Keep context all low high parts →
      IsLevel low high (Part.gather context parts) ∧
      (∀ node ∈ Part.gather context parts, node.Keeps context all) ∧
      ∀ level ∈ Node.levelsBelow (Part.gather context parts), LevelKeeps context all level := by
  induction parts using Part.runs_induction with
  | nil =>
      intro low keep
      exact ⟨.nil keep.le, by simp, by simp [Node.levelsBelow]⟩
  | block node parts ih =>
      rintro low (_ | ⟨first, more⟩)
      obtain ⟨start, stop, keeps, levels⟩ := first
      obtain ⟨level, nodes, below⟩ := ih _ more
      rw [Part.gather_block, Node.levelsBelow]
      refine ⟨.cons start keeps.trimmed.ordered stop level, ?_, ?_⟩
      · exact List.forall_mem_cons.mpr ⟨keeps, nodes⟩
      · exact List.forall_mem_append.mpr ⟨levels, below⟩
  | run id span inline more parts running stops ih =>
      intro low keep
      obtain ⟨middle, start, ordered, stop, rest⟩ := keep.cover running
      have run : ∀ part ∈ Part.running id span inline :: more, part.isRunning = true :=
        List.forall_mem_cons.mpr ⟨rfl, running⟩
      obtain ⟨level, nodes, below⟩ := ih middle rest
      have covered := Nat.le_trans stop (Nat.le_trans rest.le inside)
      rw [Part.gather_run (List.cons_ne_nil _ more) run stops, Part.node?, Option.toList_some,
        List.singleton_append, Node.levelsBelow]
      have trimmed := EventContext.trim_isTrimmed context (span.cover (more.filterMap Part.span?))
      -- The paragraph begins where the union does; only its end is moved, and backwards.
      refine ⟨.cons ?_ trimmed.ordered ?_ level, ?_, ?_⟩
      · rw [EventContext.trim_start (Nat.le_trans ordered covered)]
        exact start
      · exact Nat.le_trans (EventContext.trim_stop_le ordered covered) stop
      · exact List.forall_mem_cons.mpr ⟨.of_not_raw trimmed (by simp), nodes⟩
      · exact List.forall_mem_append.mpr ⟨by simp [Node.levels, Block.levels], below⟩

end Gather

/-! ## Trees -/

section Trees

variable {source : String} {firstId : Nat} {all : Events}

/-- A node whose number is that of a leaf was begun by no opening. -/
theorem keeps_of_leaf {context : EventContext} {content : Markdown.Leaf} {span : Span}
    {behind : Events} (suffix : (.leaf content, span) :: behind <:+ all) (block : Block) :
    (context.node behind span block).Keeps context all where
  trimmed := context.trim_isTrimmed span
  source before after tag span' text whole number _ := by
    have length : behind.length = after.length := by
      have := congrArg NodeId.val number
      exact Nat.add_left_cancel this
    -- Two suffixes of one length are the same, so the leaf would be the opening.
    have other : (.opening tag, span') :: after <:+ all := ⟨before, whole.symm⟩
    have same := (List.suffix_of_suffix_length_le suffix other (by simp [length])).eq_of_length
      (by simp [length])
    exact absurd (congrArg Prod.fst (List.cons.inj same).1) nofun

/-- The node of a skipped container holds the source that it stands for. -/
theorem keeps_of_skipped {span : Span} (ordered : span.start ≤ span.stop)
    (first : Text.IsBoundary source span.start) (last : Text.IsBoundary source span.stop)
    (id : NodeId) :
    let context := EventContext.ofSource firstId source
    let trimmed := context.trim span
    (Node.mk id trimmed (.raw ((Text.slice? source trimmed.start trimmed.stop).getD ""))).Keeps
      context all where
  trimmed := EventContext.trim_isTrimmed _ span
  source _ _ _ _ text _ _ raw := by
    have start : ((EventContext.ofSource firstId source).trim span).start = span.start :=
      EventContext.trim_start (Nat.le_trans ordered last.le_utf8ByteSize)
    -- Both ends are still on boundaries, so there is a slice and the default is not taken.
    obtain ⟨slice, found⟩ := Text.exists_slice?
      (EventContext.trim_isTrimmed (EventContext.ofSource firstId source) span).ordered
      (start ▸ first) (EventContext.isBoundary_trim_stop firstId ordered last)
    rw [found] at raw
    rw [← Block.raw.inj raw]
    exact found

/-- A node with a trimmed range stands where the range does. -/
theorem keep_block {span : Span} (ordered : span.start ≤ span.stop)
    (last : Text.IsBoundary source span.stop) {node : Node}
    (place : node.span = (EventContext.ofSource firstId source).trim span)
    (keeps : node.Keeps (.ofSource firstId source) all)
    (levels : ∀ level ∈ node.levels, LevelKeeps (.ofSource firstId source) all level) :
    (Part.block node).Keeps (.ofSource firstId source) all span.start span.stop := by
  have inside : span.stop ≤ (EventContext.ofSource firstId source).bytes.size :=
    last.le_utf8ByteSize
  refine ⟨?_, ?_, keeps, levels⟩
  · rw [place, EventContext.trim_start (Nat.le_trans ordered inside)]
  · rw [place]
    exact EventContext.trim_stop_le ordered inside

/-- The nodes of one container and all levels in them, when its parts are kept. -/
theorem levelKeeps_of_keep {context : EventContext} {low high : Nat} {parts : List Part}
    (inside : high ≤ context.bytes.size) (keep : Parts.Keep context all low high parts) :
    ∀ level ∈ Part.gather context parts :: Node.levelsBelow (Part.gather context parts),
      LevelKeeps context all level := by
  obtain ⟨level, nodes, below⟩ := keep_gather inside parts low keep
  exact List.forall_mem_cons.mpr ⟨⟨⟨low, high, level⟩, nodes⟩, below⟩

mutual

/-- A placed tree is a part of its container that stands where the tree does. -/
theorem keep_part : ∀ (tree : Markdown.Tree) (behind : Events), tree.IsPlaced source →
    tree.events ++ behind <:+ all →
    (tree.part (.ofSource firstId source) behind.length).Keeps (.ofSource firstId source) all
      tree.span.start tree.span.stop
  | .leaf content span, behind, ⟨ordered, first, last⟩, suffix => by
      have none : ∀ level ∈ [], LevelKeeps (.ofSource firstId source) all level := nofun
      cases content with
      | rule => exact keep_block ordered last rfl (keeps_of_leaf suffix .rule) none
      | html text => exact keep_block ordered last rfl (keeps_of_leaf suffix (.raw text)) none
      | _ => exact ⟨Nat.le_refl _, ordered, Nat.le_refl _⟩
  | .node tag span children, behind, ⟨ordered, first, last, inner⟩, suffix => by
      have none : ∀ level ∈ [], LevelKeeps (.ofSource firstId source) all level := nofun
      have trimmed := EventContext.trim_isTrimmed (.ofSource firstId source) span
      have inside : eventsOf children ++ (.closing, span) :: behind <:+ all := by
        refine List.IsSuffix.trans ⟨[(.opening tag, span)], ?_⟩ suffix
        simp
      cases tag with
      | paragraph => exact keep_block ordered last rfl (.of_not_raw trimmed nofun) none
      | heading level => exact keep_block ordered last rfl (.of_not_raw trimmed nofun) none
      | code info => exact keep_block ordered last rfl (.of_not_raw trimmed nofun) none
      | list start =>
          exact keep_block ordered last rfl (.of_not_raw trimmed nofun)
            (keep_items children _ _ _ inner inside)
      | quote =>
          exact keep_block ordered last rfl (.of_not_raw trimmed nofun)
            (levelKeeps_of_keep last.le_utf8ByteSize (keep_parts children _ _ _ inner inside))
      | item => exact keep_block ordered last rfl (keeps_of_skipped ordered first last _) none
      | other => exact keep_block ordered last rfl (keeps_of_skipped ordered first last _) none
      | _ => exact ⟨Nat.le_refl _, ordered, Nat.le_refl _⟩

/-- **The parts of placed trees stand one behind the other.** -/
theorem keep_parts : ∀ (forest : List Markdown.Tree) (low high : Nat) (behind : Events),
    Markdown.Tree.ArePlaced source low high forest → eventsOf forest ++ behind <:+ all →
    Parts.Keep (.ofSource firstId source) all low high
      (partsOf (.ofSource firstId source) behind.length forest)
  | [], low, high, behind, placed, suffix => .nil placed
  | tree :: rest, low, high, behind, ⟨start, placed, more⟩, suffix => by
      rw [Markdown.Tree.eventsOf_cons, List.append_assoc] at suffix
      have first := keep_part tree (eventsOf rest ++ behind) placed suffix
      rw [List.length_append] at first
      have later := keep_parts rest _ _ behind more ((List.suffix_append _ _).trans suffix)
      exact .cons (first.of_le start) later

/-- The items of a list of placed trees keep what levels keep. -/
theorem keep_items : ∀ (children : List Markdown.Tree) (low high : Nat) (behind : Events),
    Markdown.Tree.ArePlaced source low high children → eventsOf children ++ behind <:+ all →
    ∀ level ∈ Node.levelsOfItems (itemsOf (.ofSource firstId source) behind.length children),
      LevelKeeps (.ofSource firstId source) all level
  | [], low, high, behind, placed, suffix => nofun
  | .leaf content span :: rest, low, high, behind, ⟨start, placed, more⟩, suffix => by
      rw [Markdown.Tree.eventsOf_cons, List.append_assoc] at suffix
      exact keep_items rest _ _ behind more ((List.suffix_append _ _).trans suffix)
  | .node tag span children :: rest, low, high, behind, ⟨start, placed, more⟩, suffix => by
      rw [Markdown.Tree.eventsOf_cons, List.append_assoc] at suffix
      have later := keep_items rest _ _ behind more ((List.suffix_append _ _).trans suffix)
      cases tag with
      | item =>
          have inside :
              eventsOf children ++ (.closing, span) :: (eventsOf rest ++ behind) <:+ all := by
            refine List.IsSuffix.trans ⟨[(.opening .item, span)], ?_⟩ suffix
            simp
          have parts := keep_parts children _ _ _ placed.2.2.2 inside
          rw [List.length_cons, List.length_append] at parts
          have first := levelKeeps_of_keep placed.2.2.1.le_utf8ByteSize parts
          rw [itemsOf, Node.levelsOfItems]
          exact List.forall_mem_append.mpr ⟨first, later⟩
      | _ => exact later

end

end Trees

/-! ## Any events -/

/-- Whatever an event makes has a trimmed span. -/
theorem isTrimmed_firstNode {context : EventContext} {fuel : Nat} {event : Markdown.Event}
    {span : Span} {rest : Events} {node : Node}
    (made : (OfEvents.firstNode context fuel event span rest).1 = some node) :
    EventContext.IsTrimmed context.bytes node.span := by
  rw [OfEvents.firstNode.eq_def] at made
  split at made
  · obtain ⟨covered, -, rfl⟩ := Option.map_eq_some_iff.mp made
    exact context.trim_isTrimmed covered
  · cases event with
    | closing => simp at made
    | opening tag =>
        obtain rfl := Option.some.inj made
        cases tag <;> exact context.trim_isTrimmed _
    | leaf content =>
        cases content with
        | rule =>
            obtain rfl := Option.some.inj made
            exact context.trim_isTrimmed span
        | html text =>
            obtain rfl := Option.some.inj made
            exact context.trim_isTrimmed span
        | _ => simp at made

/-- The nodes of any events have trimmed spans. -/
theorem isTrimmed_of_mem_nodes (context : EventContext) (fuel : Nat) :
    ∀ events, ∀ node ∈ (OfEvents.nodes context fuel events).1,
      EventContext.IsTrimmed context.bytes node.span := by
  induction fuel with
  | zero => exact fun events => nofun
  | succ fuel ih =>
      intro events
      cases events with
      | nil => exact nofun
      | cons entry rest =>
          obtain ⟨event, span⟩ := entry
          rw [OfEvents.nodes_cons]
          split
          · exact nofun
          · refine List.forall_mem_append.mpr ⟨fun node made => ?_, ih _⟩
            exact isTrimmed_firstNode (Option.mem_toList.mp made)

theorem any_isInverted_eq_false {bytes : ByteArray} {nodes : List Node}
    (trimmed : ∀ node ∈ nodes, EventContext.IsTrimmed bytes node.span) :
    nodes.any (·.span.isInverted) = false := by
  rw [List.any_eq_false]
  intro node member inverted
  have behind : node.span.stop < node.span.start := of_decide_eq_true inverted
  exact absurd (trimmed node member).ordered (Nat.not_le.mpr behind)

/-- **The boundary of a document is never missing for an inverted span.** -/
theorem Reconcile.boundaryIndex?_parse (reader : Markdown.Reader) (firstId : Nat)
    (source : String) :
    boundaryIndex? (Document.parse reader firstId source).1 =
      (Text.lastOffsetOf? '\n' source.toList).bind fun boundary =>
        (Document.parse reader firstId source).1.blocks.findIdx? fun node =>
          boundary ≤ node.span.stop := by
  have guard : (Document.parse reader firstId source).1.blocks.any (·.span.isInverted) = false :=
    any_isInverted_eq_false (isTrimmed_of_mem_nodes _ _ _)
  rw [boundaryIndex?, guard]
  rfl

/-! ## Placed events -/

/-- **Spans of placed events.**  When the ranges of the events of a shaped forest lie on character
boundaries of the source, are nested in their parents, and are ordered and disjoint between
siblings, then on every level the spans are inside the source, ordered and disjoint, none is
inverted, and none that is not empty ends with a line end.  A node that shows text and was begun by
an opening, which is one of a skipped container, shows exactly the source in its span.  The guard
against inverted spans fires neither for these nodes nor for any parsed document, whatever reads
it. -/
theorem spans_of_placed (firstId : Nat) (source : String) (forest : List Markdown.Tree)
    (shaped : areShaped forest = true)
    (placed : Markdown.Tree.ArePlaced source 0 source.utf8ByteSize forest) :
    let nodes := Node.ofEvents (.ofSource firstId source) (eventsOf forest)
    (∀ level ∈ nodes :: Node.levelsBelow nodes,
      (∀ node ∈ level,
        node.span.start ≤ node.span.stop ∧ node.span.stop ≤ source.utf8ByteSize) ∧
      (level.Pairwise fun left right => left.span.stop ≤ right.span.start) ∧
      (∀ node ∈ level, node.span.start < node.span.stop → ∃ byte,
        Text.byteAt? source (node.span.stop - 1) = some byte ∧ byte ≠ 10 ∧ byte ≠ 13) ∧
      ∀ node ∈ level, ∀ (before after : Events) (tag : Tag) (span : Span) (text : String),
        eventsOf forest = before ++ (.opening tag, span) :: after →
        node.id = ⟨firstId + after.length⟩ → node.block = .raw text →
        Text.slice? source node.span.start node.span.stop = some text) ∧
    nodes.any (·.span.isInverted) = false ∧
    ∀ reader : Markdown.Reader,
      (Document.parse reader firstId source).1.blocks.any (·.span.isInverted) = false := by
  intro nodes
  have keep : Parts.Keep (.ofSource firstId source) (eventsOf forest) 0 source.utf8ByteSize
      (partsOf (.ofSource firstId source) 0 forest) :=
    keep_parts forest _ _ [] placed (by rw [List.append_nil])
  have levels : ∀ level ∈ nodes :: Node.levelsBelow nodes,
      LevelKeeps (.ofSource firstId source) (eventsOf forest) level := by
    have made : nodes = nodesOf (.ofSource firstId source) 0 forest :=
      OfEvents.ofEvents_eventsOf _ shaped
    rw [made]
    exact levelKeeps_of_keep (Nat.le_refl _) keep
  refine ⟨fun level member => ?_, ?_, fun reader => ?_⟩
  · obtain ⟨⟨low, high, isLevel⟩, keeps⟩ := levels level member
    refine ⟨fun node inside => ?_, isLevel.pairwise, fun node inside nonempty => ?_, ?_⟩
    · exact ⟨(keeps node inside).trimmed.ordered, (keeps node inside).trimmed.inside⟩
    · exact (keeps node inside).trimmed.exists_last nonempty
    · exact fun node inside => (keeps node inside).source
  · exact any_isInverted_eq_false fun node member => isTrimmed_of_mem_nodes _ _ _ node member
  · exact any_isInverted_eq_false fun node member => isTrimmed_of_mem_nodes _ _ _ node member

/-- A tight item with markup and a line end of two bytes, and a table behind the list. -/
theorem spans_of_placed_table :
    let source := "- é*b*\x0d\n\n|x|\n"
    let forest : List Markdown.Tree :=
      [.node (.list none) ⟨0, 10⟩ [.node .item ⟨0, 9⟩ [.leaf (.text "é") ⟨2, 4⟩,
          .node .emphasis ⟨4, 7⟩ [.leaf (.text "b") ⟨5, 6⟩]]],
        .node .other ⟨10, 14⟩ [.leaf (.text "x") ⟨11, 12⟩]]
    areShaped forest = true ∧
    Markdown.Tree.ArePlaced source 0 source.utf8ByteSize forest ∧
    Node.ofEvents (.ofSource 0 source) (eventsOf forest) =
      [⟨⟨10⟩, ⟨0, 7⟩, .list false 1
          [[⟨⟨8⟩, ⟨2, 7⟩, .paragraph [.text "é", .emphasis [.text "b"]]⟩]]⟩,
        ⟨⟨2⟩, ⟨10, 13⟩, .raw "|x|"⟩] ∧
    Text.slice? source 10 13 = some "|x|" := by
  intro source forest
  have shaped : areShaped forest = true := by decide
  have placed : Markdown.Tree.ArePlaced source 0 source.utf8ByteSize forest := by decide
  have nodes : Node.ofEvents (.ofSource 0 source) (eventsOf forest) =
      [⟨⟨10⟩, ⟨0, 7⟩, .list false 1
          [[⟨⟨8⟩, ⟨2, 7⟩, .paragraph [.text "é", .emphasis [.text "b"]]⟩]]⟩,
        ⟨⟨2⟩, ⟨10, 13⟩, .raw "|x|"⟩] :=
    (OfEvents.ofEvents_eventsOf _ shaped).trans (by dsimp only [source, forest]; rfl)
  refine ⟨shaped, placed, nodes, ?_⟩
  obtain ⟨levels, -, -⟩ := spans_of_placed 0 source forest shaped placed
  obtain ⟨-, -, -, skipped⟩ := levels _ List.mem_cons_self
  rw [nodes] at skipped
  exact skipped _ (List.mem_cons_of_mem _ List.mem_cons_self) (eventsOf (forest.take 1))
    [(.leaf (.text "x"), ⟨11, 12⟩), (.closing, ⟨10, 14⟩)] .other ⟨10, 14⟩ "|x|" rfl rfl rfl

/-- **Places alone are not enough.**  A list in a quote holds a paragraph that is in no item.  The
reader of items takes the closing of the paragraph for that of the list, and the reader of the quote
takes the closing of the list for its own.  So the second paragraph of the quote becomes a block
behind the quote, and its span lies inside that of the quote. -/
theorem spans_overlap_without_item :
    let source := "abcdef"
    let forest : List Markdown.Tree :=
      [.node .quote ⟨0, 6⟩
        [.node (.list none) ⟨0, 3⟩ [.node .paragraph ⟨0, 3⟩ [.leaf (.text "abc") ⟨0, 3⟩]],
          .node .paragraph ⟨3, 6⟩ [.leaf (.text "def") ⟨3, 6⟩]]]
    let nodes := Node.ofEvents (.ofSource 0 source) (eventsOf forest)
    Markdown.Tree.ArePlaced source 0 source.utf8ByteSize forest ∧ areShaped forest = false ∧
      nodes.map (·.span) = [⟨0, 6⟩, ⟨3, 6⟩] ∧
      ¬ nodes.Pairwise fun left right => left.span.stop ≤ right.span.start := by
  intro source forest nodes
  have spans : nodes.map (·.span) = [⟨0, 6⟩, ⟨3, 6⟩] := rfl
  refine ⟨by decide, by decide, spans, fun ordered => ?_⟩
  have apart : (nodes.map (·.span)).Pairwise fun left right => left.stop ≤ right.start :=
    List.pairwise_map.mpr ordered
  rw [spans] at apart
  exact absurd apart (by decide)

/-- The shape alone is not enough either.  The mark of a task waits for a paragraph, and is an event
of the first one that comes, in front of which a rule may stand. -/
example :
    (Node.levelsBelow (Document.parse Markdown.eventsOf 0 "- [x] ---\n  a").1.blocks).map
      (·.map (·.span)) = [[⟨6, 9⟩, ⟨2, 13⟩]] := by
  have events : Markdown.eventsOf "- [x] ---\n  a" =
      [(.opening (.list none), ⟨0, 13⟩), (.opening .item, ⟨0, 13⟩), (.leaf .rule, ⟨6, 10⟩),
        (.leaf (.taskMarker true), ⟨2, 5⟩), (.leaf (.text "a"), ⟨12, 13⟩), (.closing, ⟨0, 13⟩),
        (.closing, ⟨0, 13⟩)] := by cbv
  rw [Document.parse, events]
  rfl

end MarkdownPager
