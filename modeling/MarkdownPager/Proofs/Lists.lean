import Mathlib.Data.List.Forall2
import MarkdownPager.Render.Block

/-!
# The items of a list

A list is rendered item by item, and what is rendered inside an item is hung from its marker: the
marker stands in front of the first line and as many blanks in front of every other line.  An item
with nothing inside gets an empty line to hang, so no item is lost, and the numbers of an ordered
list stop at the largest one of 64 bits.

`HangsFrom` says what that means for the lines: what they begin with, and what is left of them
without it.  What is left are the lines of the blocks in the item, one below the other
(`Renderer.stacked`).  A list in an item is one of these blocks, so its own lines are hung from its
own markers first, and so on at every depth.

* `markLines_hangsFrom` — lines that are marked hang from the marker.
* `itemLines_eq_flatten` — the lines of a list fall into one group for each item.
* `items_hang_from_markers` — each group hangs from the marker of its item.
-/

namespace MarkdownPager

universe u

/-! ## Hanging lines -/

/-- A line begins with some text, in a segment of its own, and without it another line is left. -/
structure RenderedLine.BeginsWith (line : RenderedLine) (front : String) (rest : RenderedLine) :
    Prop where
  plain : line.plain = front ++ rest.plain
  segments : ∃ style, line.segments = ⟨front, style⟩ :: rest.segments
  links : line.links = rest.links

theorem RenderedLine.marked_beginsWith (line : RenderedLine) (marker : String) (style : TextStyle) :
    (line.marked marker style).BeginsWith marker line where
  plain := rfl
  segments := ⟨style, rfl⟩
  links := rfl

/-- Some blanks. -/
def blanks (count : Nat) : String := .ofList (List.replicate count ' ')

/-- The first of the lines begins with the marker, and each other one with as many blanks as the
marker has characters.  Without that they are the inner lines. -/
inductive HangsFrom (marker : String) : List RenderedLine → List RenderedLine → Prop where
  | intro {line first : RenderedLine} {lines rest : List RenderedLine}
    (head : line.BeginsWith marker first)
    (tail : List.Forall₂ (fun line inner => line.BeginsWith (blanks marker.length) inner)
      lines rest) :
    HangsFrom marker (first :: rest) (line :: lines)

/-- What hangs somewhere is there. -/
theorem HangsFrom.ne_nil {marker : String} {inner lines : List RenderedLine}
    (hangs : HangsFrom marker inner lines) : lines ≠ [] := by
  cases hangs
  exact List.cons_ne_nil _ _

/-- **Marked lines hang from their marker.** -/
theorem markLines_hangsFrom (marker : String) (style : TextStyle) {inner : List RenderedLine}
    (nonempty : inner ≠ []) :
    HangsFrom marker inner (markLines inner marker (Renderer.indentOf marker) style) := by
  cases inner with
  | nil => exact absurd rfl nonempty
  | cons first rest =>
      have indent : Renderer.indentOf marker = blanks marker.length := by
        rw [Renderer.indentOf, String.length_toList, blanks]
      refine .intro (first.marked_beginsWith marker style) ?_
      rw [List.forall₂_map_left_iff, List.forall₂_same, indent]
      exact fun line _ => line.marked_beginsWith _ style

namespace Renderer

variable {σ : Type u} (renderer : Renderer σ)

/-! ## Blocks below each other -/

/-- What is above a block that is not the first: an empty line, unless the block is a list. -/
def gapAbove (node : Node) : List RenderedLine := if standsApart node.block then [{}] else []

/-- The lines of rendered blocks one below the other, with an empty line above each but the first
one, lists excepted. -/
def stacked : List Node → List RenderedLine
  | [] => []
  | first :: others =>
    (renderer.render first).lines ++
      others.flatMap fun node => gapAbove node ++ (renderer.render node).lines

theorem nodeLines_eq_render (node : Node) :
    nodeLines renderer node = (renderer.render node).lines := by
  cases node
  rw [nodeLines, render]

theorem childLines_false (nodes : List Node) :
    childLines renderer false nodes =
      nodes.flatMap fun node => gapAbove node ++ (renderer.render node).lines := by
  induction nodes with
  | nil => rw [childLines, List.flatMap_nil]
  | cons node nodes ih =>
      rw [childLines, ih, nodeLines_eq_render, List.flatMap_cons]
      rfl

/-- **The lines of child blocks are those of the rendered blocks.** -/
theorem childLines_true (nodes : List Node) :
    childLines renderer true nodes = stacked renderer nodes := by
  cases nodes with
  | nil => rw [childLines, stacked]
  | cons node nodes =>
      rw [childLines, childLines_false, nodeLines_eq_render, stacked]
      rfl

/-! ## Items -/

/-- What hangs from the marker of an item: its blocks, or an empty line if they show nothing. -/
def itemInner (item : List Node) : List RenderedLine :=
  if (stacked renderer item).isEmpty then [{}] else stacked renderer item

theorem itemInner_ne_nil (item : List Node) : itemInner renderer item ≠ [] := by
  unfold itemInner
  split
  · exact List.cons_ne_nil _ _
  · rename_i shown
    exact fun empty => shown (List.isEmpty_iff.mpr empty)

/-- The lines of one item. -/
def itemGroup (ordered : Bool) (start : UInt64) (index : Nat) (item : List Node) :
    List RenderedLine :=
  let marker := itemMarker ordered start index
  markLines (itemInner renderer item) marker (indentOf marker) { bold := true }

/-- **The lines of a list are those of its items**, one item after the other. -/
theorem itemLines_eq_flatten (ordered : Bool) (start : UInt64) (items : List (List Node)) :
    ∀ index, itemLines renderer ordered start index items =
      ((items.zipIdx index).map fun (item, index) =>
        itemGroup renderer ordered start index item).flatten := by
  induction items with
  | nil =>
      intro index
      rw [itemLines]
      rfl
  | cons item items ih =>
      intro index
      rw [itemLines, ih, childLines_true, List.zipIdx_cons, List.map_cons, List.flatten_cons]
      rfl

/-- **Every item hangs from its marker.**  The lines of a list fall into one group for each item, in
order, and no group is empty.  The first line of a group begins with the marker of the item and the
others with as many blanks as the marker has characters.  What is left of them without that are
exactly the lines of the blocks in the item, or one empty line if these have no lines.

The marker of an unordered list is a bullet.  In an ordered list it is a number, which grows by one
with each item until it is the largest one of 64 bits and stays there. -/
theorem items_hang_from_markers (id : NodeId) (span : Span) (ordered : Bool) (start : UInt64)
    (items : List (List Node)) :
    ∃ groups : List (List RenderedLine),
      (renderer.render ⟨id, span, .list ordered start items⟩).lines = groups.flatten ∧
      groups.length = items.length ∧
      (∀ group ∈ groups, group ≠ []) ∧
      ∀ index item group, items[index]? = some item → groups[index]? = some group →
        let number := min (start.toNat + index) (UInt64.size - 1)
        let inner := stacked renderer item
        HangsFrom (if ordered then toString number ++ ". " else "  • ")
          (if inner.isEmpty then [{}] else inner) group := by
  have hangs : ∀ index item, HangsFrom (itemMarker ordered start index) (itemInner renderer item)
      (itemGroup renderer ordered start index item) := fun index item =>
    markLines_hangsFrom _ _ (itemInner_ne_nil renderer item)
  refine ⟨items.zipIdx.map fun (item, index) => itemGroup renderer ordered start index item,
    ?_, ?_, ?_, ?_⟩
  · rw [render, blockLines]
    exact itemLines_eq_flatten renderer ordered start items 0
  · rw [List.length_map, List.length_zipIdx]
  · intro group member
    obtain ⟨⟨item, index⟩, -, rfl⟩ := List.mem_map.mp member
    exact (hangs index item).ne_nil
  · intro index item group isItem isGroup
    rw [List.getElem?_map, List.getElem?_zipIdx, isItem, Nat.zero_add] at isGroup
    obtain rfl := Option.some.inj isGroup
    exact hangs index item

/-- Two empty items at the largest number. -/
example (id : NodeId) (span : Span) :
    (renderer.render ⟨id, span, .list true (2 ^ 64 - 1) [[], []]⟩).lines.map (·.plain) =
      ["18446744073709551615. ", "18446744073709551615. "] := by
  cbv

end Renderer

end MarkdownPager
