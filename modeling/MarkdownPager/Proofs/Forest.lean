import Mathlib.Data.List.SplitBy
import MarkdownPager.Document.OfEvents

/-!
# The nodes of a forest

The nodes that a forest stands for, told on the trees and without reading any event.  A tree is to
its container either a block or a piece of running text.  The parts of a container are its blocks
and the maximal runs of running text in it, each of which is one paragraph; the items of a list and
the children of a quote are made in the same way from the trees inside them.

`Tree.isShaped` is the shape of the forests that texts are read as.  Readers take any closing for
their own, so two containers must hold nothing else than they are for: a list opens nothing but
items, and a code block opens nothing.  All other containers may hold any trees.
-/

namespace MarkdownPager

universe u

/-- A list is a run of what has a property, perhaps an empty one, and what is behind the run. -/
theorem exists_eq_run_append {α : Type u} (p : α → Bool) (list : List α) : ∃ run later,
    list = run ++ later ∧ (∀ a ∈ run, p a = true) ∧ ∀ next ∈ later.head?, p next = false := by
  induction list with
  | nil => exact ⟨[], [], rfl, by simp, by simp⟩
  | cons a rest ih =>
      cases holds : p a with
      | false => exact ⟨[], a :: rest, rfl, by simp, by simpa using holds⟩
      | true =>
          obtain ⟨run, later, rfl, running, stops⟩ := ih
          exact ⟨a :: run, later, rfl, List.forall_mem_cons.mpr ⟨holds, running⟩, stops⟩

/-- The span from the first of several spans on that covers them all. -/
def Span.cover (first : Span) : List Span → Span
  | [] => first
  | next :: rest => first.union (next.cover rest)

namespace Markdown.Tree

/-- Whether a tree belongs to running text. -/
def isInline : Tree → Bool
  | .leaf content _ => content.isInline
  | .node tag _ _ => tag.isInline

/-- Whether a tree encloses nothing. -/
def isLeaf : Tree → Bool
  | .leaf .. => true
  | .node .. => false

/-- The text of a tree that is nothing but text. -/
def text? : Tree → Option String
  | .leaf (.text text) _ => some text
  | _ => none

/-- The text of a code block. -/
def codeOf (children : List Tree) : String :=
  String.join (children.filterMap text?)

theorem codeOf_cons (tree : Tree) (rest : List Tree) :
    codeOf (tree :: rest) = tree.text?.getD "" ++ codeOf rest := by
  cases text : tree.text? with
  | none => simp [codeOf, text]
  | some text' => simp [codeOf, text]

mutual

/-- What a tree is in running text. -/
def inline? : Tree → Option Inline
  | .leaf content _ => content.inline?
  | .node tag _ children =>
    if tag.isInline then OfEvents.markedUp tag (inlinesOf children) else none

/-- What trees are in running text. -/
def inlinesOf : List Tree → List Inline
  | [] => []
  | tree :: rest => tree.inline?.toList ++ inlinesOf rest

end

/-! ## Events of a forest -/

@[simp] theorem eventsOf_nil : eventsOf [] = [] := rfl

@[simp] theorem eventsOf_cons (tree : Tree) (rest : List Tree) :
    eventsOf (tree :: rest) = tree.events ++ eventsOf rest := rfl

@[simp] theorem events_leaf (content : Leaf) (span : Span) :
    Tree.events (.leaf content span) = [(.leaf content, span)] := rfl

@[simp] theorem events_node (tag : Tag) (span : Span) (children : List Tree) :
    Tree.events (.node tag span children) =
      (.opening tag, span) :: eventsOf children ++ [(.closing, span)] := rfl

@[simp] theorem span_leaf (content : Leaf) (span : Span) :
    Tree.span (.leaf content span) = span := rfl

@[simp] theorem span_node (tag : Tag) (span : Span) (children : List Tree) :
    Tree.span (.node tag span children) = span := rfl

theorem eventsOf_append (first second : List Tree) :
    eventsOf (first ++ second) = eventsOf first ++ eventsOf second := by
  induction first with
  | nil => rfl
  | cons tree rest ih => rw [List.cons_append, eventsOf_cons, ih, eventsOf_cons, List.append_assoc]

/-- A tree begins with an event of its own kind. -/
theorem exists_events_eq_cons (tree : Tree) : ∃ event inside,
    tree.events = (event, tree.span) :: inside ∧ event.isInline = tree.isInline ∧
      event ≠ .closing := by
  cases tree with
  | leaf content span => exact ⟨_, [], rfl, rfl, nofun⟩
  | node tag span children => exact ⟨_, _, rfl, rfl, nofun⟩

theorem length_eventsOf_cons {tree : Tree} {entry : Event × Span} {inside : Events}
    (events : tree.events = entry :: inside) (rest : List Tree) :
    (eventsOf (tree :: rest)).length = inside.length + 1 + (eventsOf rest).length := by
  rw [eventsOf_cons, List.length_append, events, List.length_cons]

theorem length_events_pos (tree : Tree) : 0 < tree.events.length := by
  obtain ⟨event, inside, events, -, -⟩ := exists_events_eq_cons tree
  rw [events]
  exact Nat.succ_pos _

/-! ## Shape -/

mutual

/-- Whether the lists in a tree open nothing but items, and its code blocks nothing. -/
def isShaped : Tree → Bool
  | .leaf .. => true
  | .node tag _ children =>
    match tag with
    | .code _ => children.all isLeaf
    | .list _ => areItems children
    | .quote => areShaped children
    | _ => true

/-- Whether all trees of a forest have the shape. -/
def areShaped : List Tree → Bool
  | [] => true
  | tree :: rest => tree.isShaped && areShaped rest

/-- Whether the trees in a list open nothing but items, and these have the shape. -/
def areItems : List Tree → Bool
  | [] => true
  | .leaf .. :: rest => areItems rest
  | .node tag _ children :: rest => tag == .item && areShaped children && areItems rest

end

theorem areShaped_append {first second : List Tree} :
    areShaped (first ++ second) = (areShaped first && areShaped second) := by
  induction first with
  | nil => rfl
  | cons tree rest ih => rw [List.cons_append, areShaped, ih, areShaped, Bool.and_assoc]

end Markdown.Tree

open Markdown (Tag)

/-! ## Parts -/

/-- What a tree is to the container that it stands in. -/
inductive Part where
  /-- Running text.  A paragraph that begins with it has the given identity. -/
  | running (id : NodeId) (span : Span) (inline : Option Inline)
  | block (node : Node)

namespace Part

/-- Whether two neighbours belong to the same run. -/
def together : Part → Part → Bool
  | .running .., .running .. => true
  | _, _ => false

def isRunning : Part → Bool
  | .running .. => true
  | .block _ => false

def span? : Part → Option Span
  | .running _ span _ => some span
  | .block _ => none

def inline? : Part → Option Inline
  | .running _ _ inline => inline
  | .block _ => none

/-- The node of a block, or of a run of running text. -/
def node? (context : EventContext) : List Part → Option Node
  | [] => none
  | .block node :: _ => some node
  | .running id span inline :: rest =>
    some ⟨id, context.trim (span.cover (rest.filterMap span?)),
      .paragraph (inline.toList ++ rest.filterMap Part.inline?)⟩

/-- The nodes of the parts of a container: one for each block and for each maximal run. -/
def gather (context : EventContext) (parts : List Part) : List Node :=
  (parts.splitBy together).filterMap (node? context)

section Gather

variable {context : EventContext} {run parts : List Part}

theorem together_of_isRunning : ∀ {left right : Part}, left.isRunning = true →
    right.isRunning = true → together left right = true
  | .running .., .running .., _, _ => rfl

theorem together_of_not_isRunning : ∀ {left right : Part}, right.isRunning = false →
    together left right = false
  | .running .., .block _, _ => rfl
  | .block _, .block _, _ => rfl

@[simp] theorem gather_nil : gather context [] = [] := rfl

/-- A block is a node of its own. -/
theorem gather_block (node : Node) (parts : List Part) :
    gather context (.block node :: parts) = node :: gather context parts := by
  have alone : ([Part.block node] ++ parts).splitBy together =
      [[.block node]] ++ parts.splitBy together :=
    List.splitBy_append (by simp [together])
  rw [gather, ← List.singleton_append, alone, List.filterMap_append]
  rfl

/-- **A maximal run is one node.** -/
theorem gather_run (nonempty : run ≠ []) (running : ∀ part ∈ run, part.isRunning = true)
    (stops : ∀ part ∈ parts.head?, part.isRunning = false) :
    gather context (run ++ parts) = (node? context run).toList ++ gather context parts := by
  have chain : run.IsChain fun left right => together left right = true :=
    (List.pairwise_iff_forall_sublist.mpr fun {left right} pair =>
      together_of_isRunning (running left (pair.subset (by simp)))
        (running right (pair.subset (by simp)))).isChain
  have split : (run ++ parts).splitBy together = [run] ++ parts.splitBy together := by
    rw [← List.splitBy_of_isChain nonempty chain]
    exact List.splitBy_append fun left _ right head => together_of_not_isRunning (stops right head)
  rw [gather, split, List.filterMap_append, gather]
  rfl

/-- Every block and every maximal run makes a node. -/
theorem length_gather (context : EventContext) (parts : List Part) :
    (gather context parts).length = (parts.splitBy together).length := by
  rw [gather, List.filterMap_length_eq_length]
  intro run member
  cases run with
  | nil => exact absurd member (List.nil_notMem_splitBy together parts)
  | cons part rest => cases part <;> rfl

/-- What holds of no parts, and still holds with a block or a maximal run in front, holds of all
parts. -/
theorem runs_induction {motive : List Part → Prop} (nil : motive [])
    (block : ∀ node parts, motive parts → motive (.block node :: parts))
    (run : ∀ id span inline more parts, (∀ part ∈ more, part.isRunning = true) →
      (∀ part ∈ parts.head?, part.isRunning = false) → motive parts →
      motive (.running id span inline :: more ++ parts)) :
    ∀ parts, motive parts := by
  intro parts
  induction size : parts.length using Nat.strong_induction_on generalizing parts with
  | _ size ih =>
      obtain ⟨first, later, rfl, running, stops⟩ := exists_eq_run_append isRunning parts
      rw [List.length_append] at size
      cases first with
      | cons part more =>
          rw [List.length_cons] at size
          rw [List.forall_mem_cons] at running
          have behind := ih later.length (by omega) later rfl
          cases part with
          | running id span inline => exact run id span inline more later running.2 stops behind
          | block node => exact absurd running.1 Bool.false_ne_true
      | nil =>
          cases later with
          | nil => exact nil
          | cons part later =>
              cases part with
              | running id span inline => exact absurd (stops _ rfl) (Bool.false_ne_true ∘ Eq.symm)
              | block node =>
                  rw [List.length_cons] at size
                  exact block node later (ih later.length (by omega) later rfl)

end Gather

end Part

namespace Markdown.Tree

mutual

/-- What a tree with `behind` events behind it is to its container. -/
def part (context : EventContext) (behind : Nat) : Tree → Part
  | .leaf content span =>
    let id : NodeId := ⟨context.firstId + behind⟩
    match content with
    | .rule => .block ⟨id, context.trim span, .rule⟩
    | .html text => .block ⟨id, context.trim span, .raw text⟩
    | _ => .running id span content.inline?
  | .node tag span children =>
    let id : NodeId := ⟨context.firstId + ((eventsOf children).length + 1 + behind)⟩
    let block (content : Block) : Part := .block ⟨id, context.trim span, content⟩
    match tag with
    | .paragraph => block (.paragraph (inlinesOf children))
    | .heading level => block (.heading level (inlinesOf children))
    | .code info => block (.code (Text.trim (info.getD "")) (OfEvents.codeLines (codeOf children)))
    | .list start =>
      block (.list start.isSome (start.getD 1) (itemsOf context (behind + 1) children))
    | .quote => block (.quote (Part.gather context (partsOf context (behind + 1) children)))
    | .emphasis | .strong | .strikethrough | .link _ | .image _ =>
      .running id span (OfEvents.markedUp tag (inlinesOf children))
    | .item | .other =>
      let span := context.trim span
      block (.raw ((Text.slice? context.source span.start span.stop).getD ""))

/-- The parts of a forest with `behind` events behind it. -/
def partsOf (context : EventContext) (behind : Nat) : List Tree → List Part
  | [] => []
  | tree :: rest =>
    part context ((eventsOf rest).length + behind) tree :: partsOf context behind rest

/-- The items of a list that holds a forest, with `behind` events behind the forest. -/
def itemsOf (context : EventContext) (behind : Nat) : List Tree → List (List Node)
  | [] => []
  | .node .item _ children :: rest =>
    Part.gather context (partsOf context ((eventsOf rest).length + behind + 1) children) ::
      itemsOf context behind rest
  | _ :: rest => itemsOf context behind rest

end

/-- The nodes of a forest with `behind` events behind it. -/
def nodesOf (context : EventContext) (behind : Nat) (forest : List Tree) : List Node :=
  Part.gather context (partsOf context behind forest)

/-! ## Blocks and runs -/

section Parts

variable (context : EventContext) (behind : Nat)

/-- A tree is running text to its container exactly if it belongs to running text. -/
theorem isRunning_part (tree : Tree) : (part context behind tree).isRunning = tree.isInline := by
  cases tree with
  | leaf content span => cases content <;> rfl
  | node tag span children => cases tag <;> rfl

/-- Running text is numbered by what is behind the event that begins it. -/
theorem part_of_isInline {tree : Tree} (inline : tree.isInline = true) :
    part context behind tree =
      .running ⟨context.firstId + (tree.events.length - 1 + behind)⟩ tree.span tree.inline? := by
  cases tree with
  | leaf content span =>
      cases content with
      | html text => exact absurd inline Bool.false_ne_true
      | rule => exact absurd inline Bool.false_ne_true
      | _ => simp [part, Tree.inline?]
  | node tag span children =>
      have inline' : tag.isInline = true := inline
      rw [Tree.inline?, if_pos inline']
      cases tag <;> first | exact absurd inline Bool.false_ne_true | simp [part]

theorem partsOf_append (first second : List Tree) :
    partsOf context behind (first ++ second) =
      partsOf context ((eventsOf second).length + behind) first ++
        partsOf context behind second := by
  induction first with
  | nil => rfl
  | cons tree rest ih =>
      rw [List.cons_append, partsOf, ih, partsOf, eventsOf_append, List.length_append,
        Nat.add_assoc, List.cons_append]

theorem isRunning_of_mem_partsOf {run : List Tree} (inline : ∀ tree ∈ run, tree.isInline = true) :
    ∀ part ∈ partsOf context behind run, part.isRunning = true := by
  induction run with
  | nil => simp [partsOf]
  | cons tree rest ih =>
      rw [List.forall_mem_cons] at inline
      rw [partsOf, List.forall_mem_cons, isRunning_part]
      exact ⟨inline.1, ih inline.2⟩

theorem filterMap_span_partsOf {run : List Tree} (inline : ∀ tree ∈ run, tree.isInline = true) :
    (partsOf context behind run).filterMap Part.span? = run.map Tree.span := by
  induction run with
  | nil => rfl
  | cons tree rest ih =>
      rw [List.forall_mem_cons] at inline
      rw [partsOf, part_of_isInline _ _ inline.1, List.filterMap_cons, ih inline.2]
      rfl

theorem filterMap_inline_partsOf {run : List Tree} (inline : ∀ tree ∈ run, tree.isInline = true) :
    (partsOf context behind run).filterMap Part.inline? = inlinesOf run := by
  induction run with
  | nil => rfl
  | cons tree rest ih =>
      rw [List.forall_mem_cons] at inline
      rw [partsOf, part_of_isInline _ _ inline.1, List.filterMap_cons, ih inline.2, inlinesOf,
        Part.inline?]
      cases tree.inline? <;> rfl

/-- **A run is one paragraph**, over all that its trees stand for. -/
theorem node?_partsOf {first : Tree} {more : List Tree}
    (inline : ∀ tree ∈ first :: more, tree.isInline = true) :
    Part.node? context (partsOf context behind (first :: more)) =
      some ⟨⟨context.firstId + (first.events.length - 1 + ((eventsOf more).length + behind))⟩,
        context.trim (first.span.cover (more.map Tree.span)),
        .paragraph (inlinesOf (first :: more))⟩ := by
  rw [List.forall_mem_cons] at inline
  rw [partsOf, part_of_isInline _ _ inline.1, Part.node?,
    filterMap_span_partsOf context behind inline.2,
    filterMap_inline_partsOf context behind inline.2, inlinesOf]

/-- A tree that is no running text is a node of its own. -/
theorem nodesOf_cons_of_block {tree : Tree} {node : Node} {rest : List Tree}
    (block : part context ((eventsOf rest).length + behind) tree = .block node) :
    nodesOf context behind (tree :: rest) = node :: nodesOf context behind rest := by
  rw [nodesOf, partsOf, block, Part.gather_block, nodesOf]

/-- A maximal run is a node of its own. -/
theorem nodesOf_run {run later : List Tree} (nonempty : run ≠ [])
    (inline : ∀ tree ∈ run, tree.isInline = true)
    (stops : ∀ tree ∈ later.head?, tree.isInline = false) :
    nodesOf context behind (run ++ later) =
      (Part.node? context (partsOf context ((eventsOf later).length + behind) run)).toList ++
        nodesOf context behind later := by
  have some_part : partsOf context ((eventsOf later).length + behind) run ≠ [] := by
    cases run with
    | nil => exact absurd rfl nonempty
    | cons tree rest => simp [partsOf]
  have stops_part : ∀ part ∈ (partsOf context behind later).head?, part.isRunning = false := by
    cases later with
    | nil => simp [partsOf]
    | cons tree rest => simpa [partsOf, isRunning_part] using stops
  rw [nodesOf, partsOf_append,
    Part.gather_run some_part (isRunning_of_mem_partsOf _ _ inline) stops_part, nodesOf]

end Parts

end Markdown.Tree

end MarkdownPager
