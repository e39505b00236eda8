import MarkdownPager.Document.Fingerprint
import MarkdownPager.Render.Block

/-!
# The content of a block

Two blocks have the same content when they differ only in what does not show: the identities and
spans of nodes, at every depth, and the start numbers of lists that are not ordered.  `erased`
overwrites these, so that having the same content is equality of the erased blocks.

Fingerprints and rendered lines are functions of the content.
-/

namespace MarkdownPager

universe u

/-! ## Erasing what does not show -/

mutual

/-- A block with everything that does not show overwritten. -/
def Block.erased : Block → Block
  | .paragraph inlines => .paragraph inlines
  | .heading level inlines => .heading level inlines
  | .code info lines => .code info lines
  | .list ordered start items =>
    .list ordered (if ordered then start else 0) (Node.erasedItems items)
  | .quote children => .quote (Node.erasedAll children)
  | .rule => .rule
  | .raw text => .raw text

/-- A node with everything that does not show overwritten. -/
def Node.erased : Node → Node
  | { block, .. } => ⟨⟨0⟩, ⟨0, 0⟩, block.erased⟩

/-- Nodes with everything that does not show overwritten. -/
def Node.erasedAll : List Node → List Node
  | [] => []
  | node :: rest => node.erased :: Node.erasedAll rest

/-- List items with everything that does not show overwritten. -/
def Node.erasedItems : List (List Node) → List (List Node)
  | [] => []
  | item :: rest => Node.erasedAll item :: Node.erasedItems rest

end

theorem Node.erasedAll_eq_map (nodes : List Node) :
    Node.erasedAll nodes = nodes.map Node.erased := by
  induction nodes with
  | nil => rfl
  | cons node rest ih => rw [Node.erasedAll, ih, List.map_cons]

theorem Node.erasedItems_eq_map (items : List (List Node)) :
    Node.erasedItems items = items.map Node.erasedAll := by
  induction items with
  | nil => rfl
  | cons item rest ih => rw [Node.erasedItems, ih, List.map_cons]

@[simp] theorem Node.block_erased (node : Node) : node.erased.block = node.block.erased := by
  cases node
  rfl

theorem Node.erased_eq_iff (left right : Node) :
    left.erased = right.erased ↔ left.block.erased = right.block.erased := by
  cases left
  cases right
  simp [Node.erased]

/-! ## Fingerprints see only the content -/

namespace Fingerprint

mutual

theorem ofBlock_erased : ∀ block : Block, ofBlock block.erased = ofBlock block
  | .paragraph _ | .heading _ _ | .code _ _ | .rule | .raw _ => rfl
  | .list true _ items => by
      simp only [Block.erased, ofBlock, if_true, framedItems_erased items]
      rw [Node.erasedItems_eq_map, List.length_map]
  | .list false _ items => by
      simp only [Block.erased, ofBlock, framedItems_erased items]
      rw [Node.erasedItems_eq_map, List.length_map]
  | .quote children => by
      simp only [Block.erased, ofBlock, ofNodes_erased children]

theorem ofNode_erased : ∀ node : Node, ofNode node.erased = ofNode node
  | { block, .. } => by
      simp only [Node.erased, ofNode, ofBlock_erased block]

theorem ofNodes_erased : ∀ nodes : List Node, ofNodes (Node.erasedAll nodes) = ofNodes nodes
  | [] => rfl
  | node :: rest => by
      have length : (Node.erasedAll (node :: rest)).length = (node :: rest).length := by
        rw [Node.erasedAll_eq_map, List.length_map]
      rw [ofNodes, ofNodes, length, framedNodes_erased (node :: rest)]

theorem framedNodes_erased : ∀ nodes : List Node,
    framedNodes (Node.erasedAll nodes) = framedNodes nodes
  | [] => rfl
  | node :: rest => by
      rw [Node.erasedAll, framedNodes, framedNodes, ofNode_erased node, framedNodes_erased rest]

theorem framedItems_erased : ∀ items : List (List Node),
    framedItems (Node.erasedItems items) = framedItems items
  | [] => rfl
  | item :: rest => by
      rw [Node.erasedItems, framedItems, framedItems, ofNodes_erased item, framedItems_erased rest]

end

end Fingerprint

theorem Node.fingerprint_eq_of_erased {left right : Node}
    (same : left.block.erased = right.block.erased) : left.fingerprint = right.fingerprint := by
  rw [Node.fingerprint, Node.fingerprint, ← Fingerprint.ofBlock_erased left.block, same,
    Fingerprint.ofBlock_erased]

/-! ## Rendered lines show only the content -/

namespace Renderer

variable {σ : Type u} (renderer : Renderer σ)

theorem standsApart_erased (block : Block) : standsApart block.erased = standsApart block := by
  cases block <;> rfl

mutual

theorem blockLines_erased : ∀ block : Block,
    blockLines renderer block.erased = blockLines renderer block
  | .paragraph _ | .heading _ _ | .code _ _ | .rule | .raw _ => rfl
  | .list ordered start items => by
      rw [Block.erased, blockLines, blockLines, itemLines_erased ordered start 0 items]
  | .quote children => by
      rw [Block.erased, blockLines, blockLines, childLines_erased true children]

theorem nodeLines_erased : ∀ node : Node, nodeLines renderer node.erased = nodeLines renderer node
  | { block, .. } => by
      rw [Node.erased, nodeLines, nodeLines, blockLines_erased block]

theorem childLines_erased : ∀ (first : Bool) (nodes : List Node),
    childLines renderer first (Node.erasedAll nodes) = childLines renderer first nodes
  | _, [] => rfl
  | first, node :: rest => by
      have apart : standsApart node.erased.block = standsApart node.block := by
        rw [Node.block_erased, standsApart_erased]
      rw [Node.erasedAll, childLines, childLines, nodeLines_erased node,
        childLines_erased false rest, apart]

theorem itemLines_erased : ∀ (ordered : Bool) (start : UInt64) (index : Nat)
    (items : List (List Node)),
    itemLines renderer ordered (if ordered then start else 0) index (Node.erasedItems items) =
      itemLines renderer ordered start index items
  | _, _, _, [] => rfl
  | ordered, start, index, item :: rest => by
      have marker : itemMarker ordered (if ordered then start else 0) index =
          itemMarker ordered start index := by
        cases ordered <;> rfl
      rw [Node.erasedItems, itemLines, itemLines, childLines_erased true item,
        itemLines_erased ordered start (index + 1) rest, marker]

end

/-- Nodes with the same content are rendered alike. -/
theorem render_eq_of_erased {left right : Node}
    (same : left.block.erased = right.block.erased) :
    renderer.render left = renderer.render right := by
  rw [render, render, ← blockLines_erased renderer left.block, same, blockLines_erased]

end Renderer

end MarkdownPager
