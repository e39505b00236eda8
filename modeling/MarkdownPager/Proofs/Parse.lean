import Mathlib.Data.List.Basic
import MarkdownPager.Document.Parse
import MarkdownPager.Proofs.Content

/-!
# What parsing numbers

A node takes its identity from the number of events behind the one that begins it.  Each reader
gives back a suffix of the events it was given, so along the nodes of one level this number goes
down: their identities are pairwise distinct, and all of them lie below the number that parsing
gives back.

The first identity is the only thing that tells two parses of one text apart.  The spans, and the
content in the sense of `Node.erased`, are the same.

* `Document.nodup_ids_parse` — no two top-level blocks have one identity.
* `Document.placements_parse` — spans and content do not depend on the first identity.
-/

namespace MarkdownPager

universe u

open Markdown (Event Events Tag)

namespace OfEvents

/-! ## Readers give back a suffix -/

theorem skipContainer_suffix (events : Events) :
    ∀ depth, skipContainer depth events <:+ events := by
  induction events with
  | nil =>
      intro depth
      exact List.suffix_refl []
  | cons entry rest ih =>
      intro depth
      obtain ⟨event, span⟩ := entry
      have behind : rest <:+ (event, span) :: rest := List.suffix_cons (event, span) rest
      cases event with
      | opening tag => exact (ih (depth + 1)).trans behind
      | leaf content => exact (ih depth).trans behind
      | closing =>
          cases depth with
          | zero => exact behind
          | succ depth => exact (ih depth).trans behind

theorem codeText_suffix (events : Events) : (codeText events).2 <:+ events := by
  fun_induction codeText events with
  | case1 => exact List.suffix_refl []
  | case2 => exact List.suffix_cons _ _
  | case3 span text rest more behind same ih =>
      rw [same] at ih
      exact ih.trans (List.suffix_cons _ _)
  | case4 entry rest _ _ ih => exact ih.trans (List.suffix_cons _ _)

theorem inlineWith_suffix {children : Events → List Inline × Events}
    (suffix : ∀ events, (children events).2 <:+ events) (event : Event) (rest : Events) :
    (inlineWith children event rest).2 <:+ rest := by
  cases event with
  | closing => exact List.suffix_refl rest
  | leaf content => exact List.suffix_refl rest
  | opening tag =>
      rw [inlineWith]
      split
      · exact suffix rest
      · exact skipContainer_suffix rest 0

theorem inlines_suffix (fuel : Nat) : ∀ events, (inlines fuel events).2 <:+ events := by
  induction fuel with
  | zero =>
      intro events
      exact List.suffix_refl events
  | succ fuel ih =>
      intro events
      cases events with
      | nil => exact List.suffix_refl []
      | cons entry rest =>
          obtain ⟨event, span⟩ := entry
          have behind : rest <:+ (event, span) :: rest := List.suffix_cons (event, span) rest
          rw [inlines]
          split
          · exact behind
          · exact (ih _).trans ((inlineWith_suffix ih event rest).trans behind)

theorem inlineRun_suffix (fuel : Nat) : ∀ events, (inlineRun fuel events).2.2 <:+ events := by
  induction fuel with
  | zero =>
      intro events
      exact List.suffix_refl events
  | succ fuel ih =>
      intro events
      cases events with
      | nil => exact List.suffix_refl []
      | cons entry rest =>
          obtain ⟨event, span⟩ := entry
          have behind : rest <:+ (event, span) :: rest := List.suffix_cons (event, span) rest
          rw [inlineRun]
          split
          · exact (ih _).trans ((inlineWith_suffix (inlines_suffix fuel) event rest).trans behind)
          · exact List.suffix_refl _

/-- A run takes at least the event that it begins with. -/
theorem inlineRun_cons_suffix (fuel : Nat) {event : Event} (inline : event.isInline = true)
    (span : Span) (rest : Events) :
    (inlineRun (fuel + 1) ((event, span) :: rest)).2.2 <:+ rest := by
  rw [inlineRun, if_pos inline]
  exact (inlineRun_suffix fuel _).trans (inlineWith_suffix (inlines_suffix fuel) event rest)

/-- What is left behind a container, whatever its tag, when its parts leave suffixes. -/
theorem container_suffix (context : EventContext) {inlines : Events → List Inline × Events}
    {nodes : Events → List Node × Events} {items : Events → List (List Node) × Events}
    (inlinesSuffix : ∀ events, (inlines events).2 <:+ events)
    (nodesSuffix : ∀ events, (nodes events).2 <:+ events)
    (itemsSuffix : ∀ events, (items events).2 <:+ events) (tag : Tag) (span : Span)
    (rest : Events) : (container context inlines nodes items tag span rest).2 <:+ rest := by
  cases tag with
  | paragraph => exact inlinesSuffix rest
  | heading level => exact inlinesSuffix rest
  | code info => exact codeText_suffix rest
  | list start => exact itemsSuffix rest
  | quote => exact nodesSuffix rest
  | _ => exact skipContainer_suffix rest 0

/-- The node of a container is numbered by what is behind its opening. -/
theorem id_container (context : EventContext) (inlines : Events → List Inline × Events)
    (nodes : Events → List Node × Events) (items : Events → List (List Node) × Events) (tag : Tag)
    (span : Span) (rest : Events) :
    (container context inlines nodes items tag span rest).1.id =
      ⟨context.firstId + rest.length⟩ := by
  cases tag <;> rfl

/-! ## One entry of a sequence of nodes -/

/-- What an event that is no closing makes: a node, perhaps, and the events behind it. -/
def firstNode (context : EventContext) (fuel : Nat) (event : Event) (span : Span) (rest : Events) :
    Option Node × Events :=
  if event.isInline then
    let (inlines, covered, behind) := inlineRun (fuel + 1) ((event, span) :: rest)
    (covered.map fun span => context.node rest span (.paragraph inlines), behind)
  else
    match event with
    | .closing => (none, rest)
    | .opening tag =>
      let (first, behind) :=
        container context (inlines fuel) (nodes context fuel) (items context fuel) tag span rest
      (some first, behind)
    | .leaf .rule => (some (context.node rest span .rule), rest)
    | .leaf (.html text) => (some (context.node rest span (.raw text)), rest)
    | .leaf _ => (none, rest)

/-- **One entry at a time.**  Reading nodes is reading what each event makes, up to a closing. -/
theorem nodes_cons (context : EventContext) (fuel : Nat) (event : Event) (span : Span)
    (rest : Events) :
    nodes context (fuel + 1) ((event, span) :: rest) =
      if event = .closing then ([], rest)
      else
        let first := firstNode context fuel event span rest
        let more := nodes context fuel first.2
        (first.1.toList ++ more.1, more.2) := by
  rw [nodes.eq_def, firstNode.eq_def]
  cases event with
  | closing => rfl
  | opening tag =>
      by_cases inline : (Event.opening tag).isInline
      · simp [inline]
      · simp [inline]
  | leaf content =>
      cases content with
      | rule => rfl
      | html text => rfl
      | _ => rfl

theorem firstNode_suffix {context : EventContext} {fuel : Nat}
    (nodesSuffix : ∀ events, (nodes context fuel events).2 <:+ events)
    (itemsSuffix : ∀ events, (items context fuel events).2 <:+ events) (event : Event)
    (span : Span) (rest : Events) : (firstNode context fuel event span rest).2 <:+ rest := by
  by_cases inline : event.isInline
  · rw [firstNode.eq_def, if_pos inline]
    exact inlineRun_cons_suffix fuel inline span rest
  · rw [firstNode.eq_def, if_neg inline]
    cases event with
    | closing => exact List.suffix_refl rest
    | opening tag =>
        exact container_suffix context (inlines_suffix fuel) nodesSuffix itemsSuffix tag span rest
    | leaf content => cases content <;> exact List.suffix_refl rest

/-- Whatever an event makes is numbered by what is behind the event. -/
theorem id_firstNode {context : EventContext} {fuel : Nat} {event : Event} {span : Span}
    {rest : Events} {node : Node}
    (made : (firstNode context fuel event span rest).1 = some node) :
    node.id = ⟨context.firstId + rest.length⟩ := by
  by_cases inline : event.isInline
  · rw [firstNode.eq_def, if_pos inline] at made
    obtain ⟨covered, -, rfl⟩ := Option.map_eq_some_iff.mp made
    rfl
  · rw [firstNode.eq_def, if_neg inline] at made
    cases event with
    | closing => simp at made
    | opening tag =>
        simp only [Option.some.injEq] at made
        rw [← made, id_container]
    | leaf content =>
        cases content with
        | rule =>
            rw [← Option.some.inj made]
            rfl
        | html text =>
            rw [← Option.some.inj made]
            rfl
        | _ => simp at made

/-- The readers of nodes and of items give back suffixes. -/
theorem nodes_and_items_suffix (context : EventContext) (fuel : Nat) :
    (∀ events, (nodes context fuel events).2 <:+ events) ∧
      ∀ events, (items context fuel events).2 <:+ events := by
  induction fuel with
  | zero => exact ⟨List.suffix_refl, List.suffix_refl⟩
  | succ fuel ih =>
      obtain ⟨nodesSuffix, itemsSuffix⟩ := ih
      refine ⟨fun events => ?_, fun events => ?_⟩
      · cases events with
        | nil => exact List.suffix_refl []
        | cons entry rest =>
            obtain ⟨event, span⟩ := entry
            have behind : rest <:+ (event, span) :: rest := List.suffix_cons (event, span) rest
            rw [nodes_cons]
            split
            · exact behind
            · have first := firstNode_suffix nodesSuffix itemsSuffix event span rest
              exact (nodesSuffix _).trans (first.trans behind)
      · cases events with
        | nil => exact List.suffix_refl []
        | cons entry rest =>
            obtain ⟨event, span⟩ := entry
            have behind : rest <:+ (event, span) :: rest := List.suffix_cons (event, span) rest
            rw [items.eq_def]
            dsimp only
            split
            · exact (itemsSuffix _).trans ((nodesSuffix rest).trans behind)
            · exact behind
            · exact (itemsSuffix rest).trans behind

/-! ## Identities go down -/

/-- The identities of nodes go down from node to node, and none of them reaches `bound`. -/
structure Descending (bound : Nat) (nodes : List Node) : Prop where
  lt_bound : ∀ node ∈ nodes, node.id.val < bound
  pairwise : nodes.Pairwise fun earlier later => later.id.val < earlier.id.val

theorem Descending.nodup_ids {bound : Nat} {nodes : List Node}
    (descending : Descending bound nodes) :
    (nodes.map (·.id)).Nodup := by
  rw [List.Nodup, List.pairwise_map]
  refine descending.pairwise.imp fun {earlier later} below same => ?_
  rw [same] at below
  exact Nat.lt_irrefl _ below

theorem Descending.nil (bound : Nat) : Descending bound [] := ⟨by simp, .nil⟩

theorem Descending.mono {bound higher : Nat} {nodes : List Node}
    (descending : Descending bound nodes) (le : bound ≤ higher) : Descending higher nodes where
  lt_bound node member := Nat.lt_of_lt_of_le (descending.lt_bound node member) le
  pairwise := descending.pairwise

theorem Descending.cons {bound : Nat} {first : Node} {nodes : List Node}
    (descending : Descending bound nodes) (top : first.id.val = bound) :
    Descending (bound + 1) (first :: nodes) where
  lt_bound node member := by
    rcases List.mem_cons.mp member with rfl | later
    · omega
    · have := descending.lt_bound node later
      omega
  pairwise := List.pairwise_cons.mpr
    ⟨fun node member => top ▸ descending.lt_bound node member, descending.pairwise⟩

/-- The nodes that are read go down from the number of events. -/
theorem descending_nodes (context : EventContext) (fuel : Nat) :
    ∀ events, Descending (context.firstId + events.length) (nodes context fuel events).1 := by
  induction fuel with
  | zero => exact fun events => .nil _
  | succ fuel ih =>
      intro events
      cases events with
      | nil => exact .nil _
      | cons entry rest =>
          obtain ⟨event, span⟩ := entry
          obtain ⟨nodesSuffix, itemsSuffix⟩ := nodes_and_items_suffix context fuel
          have shorter : (firstNode context fuel event span rest).2.length ≤ rest.length :=
            (firstNode_suffix nodesSuffix itemsSuffix event span rest).length_le
          -- Later nodes have fewer events behind them than the one that is read first.
          have more := (ih (firstNode context fuel event span rest).2).mono
            (Nat.add_le_add_left shorter context.firstId)
          rw [nodes_cons]
          split
          · exact .nil _
          · cases made : (firstNode context fuel event span rest).1 with
            | none =>
                simp only [made, Option.toList_none, List.nil_append]
                exact more.mono (by simp)
            | some first =>
                have id : first.id.val = context.firstId + rest.length :=
                  congrArg NodeId.val (id_firstNode made)
                simp only [made, Option.toList_some, List.singleton_append]
                exact more.cons id

/-! ## Two parses differ in identities only -/

/-- A context that numbers from another identity on. -/
def renumbered (context : EventContext) (firstId : Nat) : EventContext := { context with firstId }

/-- Where a node stands, and what it shows. -/
def placement (node : Node) : Span × Node := (node.span, node.erased)

/-- Two readings of nodes leave the same behind, and their nodes differ in identities only. -/
def SameNodes (left right : List Node × Events) : Prop :=
  left.1.map placement = right.1.map placement ∧ left.2 = right.2

/-- Two readings of items leave the same behind, and their items show the same. -/
def SameItems (left right : List (List Node) × Events) : Prop :=
  Node.erasedItems left.1 = Node.erasedItems right.1 ∧ left.2 = right.2

theorem placement_node (context : EventContext) (firstId : Nat) (rest : Events) (span : Span)
    {block other : Block} (same : block.erased = other.erased) :
    placement ((renumbered context firstId).node rest span block) =
      placement (context.node rest span other) := by
  simp [placement, EventContext.node, renumbered, EventContext.trim, Node.erased, same]

theorem placement_rawNode (context : EventContext) (firstId : Nat) (rest : Events) (span : Span) :
    placement ((renumbered context firstId).rawNode rest span) =
      placement (context.rawNode rest span) :=
  placement_node context firstId rest (context.trim span) rfl

theorem SameNodes.erasedAll {left right : List Node × Events} (same : SameNodes left right) :
    Node.erasedAll left.1 = Node.erasedAll right.1 := by
  have contents := congrArg (List.map Prod.snd) same.1
  rw [Node.erasedAll_eq_map, Node.erasedAll_eq_map]
  simpa [placement, Function.comp_def] using contents

/-- Whatever depends on placements alone is the same for both. -/
theorem map_eq_of_placements {α : Type u} {f : Node → α} {left : List Node}
    (respects : ∀ node other, placement node = placement other → f node = f other) :
    ∀ {right : List Node}, left.map placement = right.map placement →
      left.map f = right.map f := by
  induction left with
  | nil =>
      intro right same
      rw [List.map_nil, eq_comm, List.map_eq_nil_iff] at same
      rw [same]
  | cons node nodes ih =>
      intro right same
      obtain ⟨other, others, rfl, first, rest⟩ := List.map_eq_cons_iff.mp same.symm
      rw [List.map_cons, List.map_cons, respects node other first.symm, ih rest.symm]

section Renumbered

variable {context : EventContext} {firstId fuel : Nat}

theorem container_renumbered (inlines : Events → List Inline × Events)
    {nodes nodes' : Events → List Node × Events}
    {items items' : Events → List (List Node) × Events}
    (sameNodes : ∀ events, SameNodes (nodes' events) (nodes events))
    (sameItems : ∀ events, SameItems (items' events) (items events)) (tag : Tag) (span : Span)
    (rest : Events) :
    placement (container (renumbered context firstId) inlines nodes' items' tag span rest).1 =
        placement (container context inlines nodes items tag span rest).1 ∧
      (container (renumbered context firstId) inlines nodes' items' tag span rest).2 =
        (container context inlines nodes items tag span rest).2 := by
  cases tag with
  | list start =>
      obtain ⟨contents, behind⟩ := sameItems rest
      refine ⟨placement_node context firstId rest span ?_, behind⟩
      rw [Block.erased, Block.erased, contents]
  | quote =>
      refine ⟨placement_node context firstId rest span ?_, (sameNodes rest).2⟩
      rw [Block.erased, Block.erased, (sameNodes rest).erasedAll]
  | paragraph => exact ⟨placement_node context firstId rest span rfl, rfl⟩
  | heading level => exact ⟨placement_node context firstId rest span rfl, rfl⟩
  | code info => exact ⟨placement_node context firstId rest span rfl, rfl⟩
  | _ => exact ⟨placement_rawNode context firstId rest span, rfl⟩

theorem firstNode_renumbered
    (sameNodes : ∀ events,
      SameNodes (nodes (renumbered context firstId) fuel events) (nodes context fuel events))
    (sameItems : ∀ events,
      SameItems (items (renumbered context firstId) fuel events) (items context fuel events))
    (event : Event) (span : Span) (rest : Events) :
    (firstNode (renumbered context firstId) fuel event span rest).1.map placement =
        (firstNode context fuel event span rest).1.map placement ∧
      (firstNode (renumbered context firstId) fuel event span rest).2 =
        (firstNode context fuel event span rest).2 := by
  rw [firstNode.eq_def, firstNode.eq_def]
  by_cases inline : event.isInline
  · rw [if_pos inline, if_pos inline]
    refine ⟨?_, rfl⟩
    rw [Option.map_map, Option.map_map]
    refine congrArg (Option.map · _) (funext fun span => ?_)
    exact placement_node context firstId rest span rfl
  · rw [if_neg inline, if_neg inline]
    cases event with
    | closing => exact ⟨rfl, rfl⟩
    | opening tag =>
        obtain ⟨placed, behind⟩ :=
          container_renumbered (inlines fuel) sameNodes sameItems tag span rest
        exact ⟨congrArg some placed, behind⟩
    | leaf content =>
        cases content with
        | rule => exact ⟨congrArg some (placement_node context firstId rest span rfl), rfl⟩
        | html text => exact ⟨congrArg some (placement_node context firstId rest span rfl), rfl⟩
        | _ => exact ⟨rfl, rfl⟩

end Renumbered

theorem nodes_and_items_renumbered (context : EventContext) (firstId fuel : Nat) :
    (∀ events,
      SameNodes (nodes (renumbered context firstId) fuel events) (nodes context fuel events)) ∧
    ∀ events,
      SameItems (items (renumbered context firstId) fuel events) (items context fuel events) := by
  induction fuel with
  | zero => exact ⟨fun events => ⟨rfl, rfl⟩, fun events => ⟨rfl, rfl⟩⟩
  | succ fuel ih =>
      obtain ⟨sameNodes, sameItems⟩ := ih
      refine ⟨fun events => ?_, fun events => ?_⟩
      · cases events with
        | nil => exact ⟨rfl, rfl⟩
        | cons entry rest =>
            obtain ⟨event, span⟩ := entry
            obtain ⟨placed, behind⟩ := firstNode_renumbered sameNodes sameItems event span rest
            rw [nodes_cons, nodes_cons]
            split
            · exact ⟨rfl, rfl⟩
            · obtain ⟨more, left⟩ := sameNodes (firstNode context fuel event span rest).2
              dsimp only [SameNodes]
              rw [behind]
              refine ⟨?_, left⟩
              rw [List.map_append, List.map_append, more, ← Option.toList_map, placed,
                Option.toList_map]
      · cases events with
        | nil => exact ⟨rfl, rfl⟩
        | cons entry rest =>
            obtain ⟨event, span⟩ := entry
            rw [items.eq_def, items.eq_def]
            dsimp only
            split
            · obtain ⟨more, left⟩ := sameItems (nodes context fuel rest).2
              rw [SameItems, (sameNodes rest).2]
              refine ⟨?_, left⟩
              rw [Node.erasedItems, Node.erasedItems, (sameNodes rest).erasedAll, more]
            · exact ⟨rfl, rfl⟩
            · exact sameItems rest

end OfEvents

namespace Document

/-- **No two top-level blocks have one identity.** -/
theorem nodup_ids_parse (reader : Markdown.Reader) (firstId : Nat) (source : String) :
    ((Document.parse reader firstId source).1.blocks.map (·.id)).Nodup :=
  (OfEvents.descending_nodes _ _ _).nodup_ids

/-- All top-level identities lie below the number that parsing gives back. -/
theorem id_lt_of_mem_blocks_parse (reader : Markdown.Reader) (firstId : Nat) (source : String) :
    ∀ node ∈ (Document.parse reader firstId source).1.blocks,
      node.id.val < (Document.parse reader firstId source).2 :=
  (OfEvents.descending_nodes _ _ _).lt_bound

/-- **Two parses of one text differ in identities only.** -/
theorem placements_parse (reader : Markdown.Reader) (firstId other : Nat) (source : String) :
    (Document.parse reader firstId source).1.blocks.map OfEvents.placement =
      (Document.parse reader other source).1.blocks.map OfEvents.placement :=
  ((OfEvents.nodes_and_items_renumbered (.ofSource other source) firstId _).1 _).1

theorem length_blocks_parse (reader : Markdown.Reader) (firstId other : Nat) (source : String) :
    (Document.parse reader firstId source).1.blocks.length =
      (Document.parse reader other source).1.blocks.length := by
  simpa using congrArg List.length (placements_parse reader firstId other source)

end Document

end MarkdownPager
