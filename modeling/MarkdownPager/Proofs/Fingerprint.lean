import Mathlib
import MarkdownPager.Proofs.Content
import MarkdownPager.Proofs.Encoding

/-!
# What a fingerprint tells apart

A fingerprint is a text without a grammar of its own, so whether it tells contents apart is a
question about reading it back.  Numbers, frames and inlines can be read, and so can the number of
children in a counted list, since the first child itself can be read off the text.  A code line is
any text at all, and there a doubt remains: `#1` and `30:` give the same text as `#13` and `0:`, and
one line of thirty bytes may read as thirteen lines (`fingerprint_collision`).

The module proves that nothing else is lost.  The encodings of blocks, and of lists of them, are
`SelfDelimiting`: they can be read off the front of a text by a reader who is told the numbers of
code lines in advance.  Hence two nodes have the same content exactly when they have the same
fingerprint and their code blocks have the same numbers of lines (`Node.erased_block_eq_iff`).
-/

namespace MarkdownPager

/-! ## Blocks -/

mutual

/-- The numbers of lines of the code blocks in a block, in the order of the document. -/
def Block.codeLineCounts : Block → List Nat
  | .paragraph _ | .heading _ _ | .rule | .raw _ => []
  | .code _ lines => [lines.length]
  | .list _ _ items => Node.codeLineCountsOfItems items
  | .quote children => Node.codeLineCountsOfAll children

/-- The numbers of lines of the code blocks in a node. -/
def Node.codeLineCounts : Node → List Nat
  | { block, .. } => block.codeLineCounts

/-- The numbers of lines of the code blocks in a list of nodes. -/
def Node.codeLineCountsOfAll : List Node → List Nat
  | [] => []
  | node :: rest => node.codeLineCounts ++ Node.codeLineCountsOfAll rest

/-- The numbers of lines of the code blocks in list items. -/
def Node.codeLineCountsOfItems : List (List Node) → List Nat
  | [] => []
  | item :: rest => Node.codeLineCountsOfAll item ++ Node.codeLineCountsOfItems rest

end

theorem Node.codeLineCountsOfAll_eq_flatMap (nodes : List Node) :
    Node.codeLineCountsOfAll nodes = nodes.flatMap Node.codeLineCounts := by
  induction nodes with
  | nil => rw [Node.codeLineCountsOfAll, List.flatMap_nil]
  | cons node rest ih => rw [Node.codeLineCountsOfAll, ih, List.flatMap_cons]

theorem Node.codeLineCountsOfItems_eq_flatMap (items : List (List Node)) :
    Node.codeLineCountsOfItems items = items.flatMap Node.codeLineCountsOfAll := by
  induction items with
  | nil => rw [Node.codeLineCountsOfItems, List.flatMap_nil]
  | cons item rest ih => rw [Node.codeLineCountsOfItems, ih, List.flatMap_cons]

mutual

/-- The numbers of code lines are part of the content. -/
theorem Block.codeLineCounts_erased : ∀ block : Block,
    block.erased.codeLineCounts = block.codeLineCounts
  | .paragraph _ | .heading _ _ | .code _ _ | .rule | .raw _ => rfl
  | .list _ _ items => by
      rw [Block.erased, Block.codeLineCounts, Block.codeLineCounts,
        Node.codeLineCountsOfItems_erased items]
  | .quote children => by
      rw [Block.erased, Block.codeLineCounts, Block.codeLineCounts,
        Node.codeLineCountsOfAll_erased children]

theorem Node.codeLineCounts_erased : ∀ node : Node,
    node.erased.codeLineCounts = node.codeLineCounts
  | { block, .. } => by
      rw [Node.erased, Node.codeLineCounts, Node.codeLineCounts, Block.codeLineCounts_erased block]

theorem Node.codeLineCountsOfAll_erased : ∀ nodes : List Node,
    Node.codeLineCountsOfAll (Node.erasedAll nodes) = Node.codeLineCountsOfAll nodes
  | [] => rfl
  | node :: rest => by
      rw [Node.erasedAll, Node.codeLineCountsOfAll, Node.codeLineCountsOfAll,
        Node.codeLineCounts_erased node, Node.codeLineCountsOfAll_erased rest]

theorem Node.codeLineCountsOfItems_erased : ∀ items : List (List Node),
    Node.codeLineCountsOfItems (Node.erasedItems items) = Node.codeLineCountsOfItems items
  | [] => rfl
  | item :: rest => by
      rw [Node.erasedItems, Node.codeLineCountsOfItems, Node.codeLineCountsOfItems,
        Node.codeLineCountsOfAll_erased item, Node.codeLineCountsOfItems_erased rest]

end

namespace Fingerprint

theorem framedNodes_eq_framedAll (nodes : List Node) :
    framedNodes nodes = framedAll ofNode nodes := by
  induction nodes with
  | nil => rw [framedNodes, framedAll, List.flatMap_nil]
  | cons node rest ih => rw [framedNodes, ih, framedAll, framedAll, List.flatMap_cons]

theorem framedItems_eq_framedAll (items : List (List Node)) :
    framedItems items = framedAll ofNodes items := by
  induction items with
  | nil => rw [framedItems, framedAll, List.flatMap_nil]
  | cons item rest ih => rw [framedItems, ih, framedAll, framedAll, List.flatMap_cons]

theorem ofNodes_eq_counted (nodes : List Node) : ofNodes nodes = '#' :: counted ofNode nodes := by
  rw [ofNodes, framedNodes_eq_framedAll, counted, List.cons_append]

/-- As many code lines are read as are told. -/
theorem framedLines_append_inj {lines others : List String} {r s : List Char}
    (length : lines.length = others.length)
    (same : framedLines lines ++ r = framedLines others ++ s) : lines = others ∧ r = s := by
  induction lines generalizing others with
  | nil =>
      obtain rfl := List.length_eq_zero_iff.mp length.symm
      exact ⟨rfl, same⟩
  | cons line lines ih =>
      cases others with
      | nil => simp at length
      | cons other others =>
          simp only [framedLines, List.append_assoc] at same
          obtain ⟨rfl, behind⟩ := field_append_inj same
          obtain ⟨rfl, rest⟩ := ih (by simpa using length) behind
          exact ⟨rfl, rest⟩

/-- The encoding of a block can be read off the front of any text once the numbers of its code
lines are known. -/
abbrev BlockSelfDelimiting : Block → Prop :=
  SelfDelimiting ofBlock Block.codeLineCounts Block.erased

/-- The same for nodes. -/
abbrev NodeSelfDelimiting : Node → Prop :=
  SelfDelimiting ofNode Node.codeLineCounts Node.erased

theorem nodes_selfDelimiting_of_forall {nodes : List Node}
    (each : ∀ node ∈ nodes, NodeSelfDelimiting node) :
    SelfDelimiting ofNodes Node.codeLineCountsOfAll Node.erasedAll nodes := by
  intro others r s u v same told
  simp only [ofNodes_eq_counted, List.cons_append, List.cons.injEq, true_and] at same
  simp only [Node.codeLineCountsOfAll_eq_flatMap] at told
  simp only [Node.erasedAll_eq_map]
  exact counted_selfDelimiting each others r s u v same told

mutual

theorem block_selfDelimiting : ∀ block : Block, BlockSelfDelimiting block
  | .paragraph inlines => by
      intro other r s u v same told
      cases other with
      | paragraph inlines' =>
          simp only [ofBlock, List.cons_append, List.cons.injEq, true_and] at same
          obtain ⟨rfl, rest⟩ := ofInlines_append_inj (inlines_selfDelimiting inlines) same
          exact ⟨rfl, rest, told⟩
      | list ordered _ _ => cases ordered <;> simp [ofBlock] at same
      | _ => simp [ofBlock] at same
  | .heading level inlines => by
      intro other r s u v same told
      cases other with
      | heading level' inlines' =>
          simp only [ofBlock, List.cons_append, List.append_assoc, List.cons.injEq, true_and,
            ofInlines] at same
          obtain ⟨rfl, -, behind⟩ := number_append_inj (by decide) (by decide) same
          have both : ofInlines inlines ++ r = ofInlines inlines' ++ s := by
            simpa [ofInlines] using behind
          obtain ⟨rfl, rest⟩ := ofInlines_append_inj (inlines_selfDelimiting inlines) both
          exact ⟨rfl, rest, told⟩
      | list ordered _ _ => cases ordered <;> simp [ofBlock] at same
      | _ => simp [ofBlock] at same
  | .code info lines => by
      intro other r s u v same told
      cases other with
      | code info' lines' =>
          simp only [ofBlock, List.cons_append, List.append_assoc, List.cons.injEq,
            true_and] at same
          obtain ⟨rfl, behind⟩ := field_append_inj same
          -- A code line can be any text, so the number of lines has to be told.
          simp only [Block.codeLineCounts, List.cons_append, List.nil_append, List.cons.injEq]
            at told
          rw [told.1] at behind
          obtain ⟨rfl, rest⟩ := framedLines_append_inj told.1
            (List.append_cancel_left (List.cons.inj behind).2)
          exact ⟨rfl, rest, told.2⟩
      | list ordered _ _ => cases ordered <;> simp [ofBlock] at same
      | _ => simp [ofBlock] at same
  | .list ordered start items => by
      intro other r s u v same told
      cases other with
      | list ordered' start' items' =>
          have each := items_selfDelimiting items
          simp only [Block.codeLineCounts, Node.codeLineCountsOfItems_eq_flatMap] at told
          cases ordered <;> cases ordered' <;>
            simp only [ofBlock, List.cons_append, List.nil_append, List.append_assoc,
              List.cons.injEq, true_and] at same
          · have both : counted ofNodes items ++ r = counted ofNodes items' ++ s := by
              simpa [counted, framedItems_eq_framedAll] using same
            obtain ⟨contents, ends⟩ := counted_selfDelimiting each _ _ _ _ _ both told
            refine ⟨?_, ends⟩
            simp [Block.erased, Node.erasedItems_eq_map, contents]
          · simp at same
          · simp at same
          · obtain ⟨starts, -, behind⟩ := number_append_inj (by decide) (by decide) same
            have both : counted ofNodes items ++ r = counted ofNodes items' ++ s := by
              simpa [counted, framedItems_eq_framedAll] using behind
            obtain ⟨contents, ends⟩ := counted_selfDelimiting each _ _ _ _ _ both told
            refine ⟨?_, ends⟩
            simp [Block.erased, Node.erasedItems_eq_map, contents, UInt64.toNat_inj.mp starts]
      | _ => cases ordered <;> simp [ofBlock] at same
  | .quote children => by
      intro other r s u v same told
      cases other with
      | quote children' =>
          simp only [ofBlock, List.cons_append, List.cons.injEq, true_and] at same
          obtain ⟨contents, ends⟩ := nodes_selfDelimiting_of_forall
            (nodes_selfDelimiting children) children' r s u v same told
          refine ⟨?_, ends⟩
          simp [Block.erased, contents]
      | list ordered _ _ => cases ordered <;> simp [ofBlock] at same
      | _ => simp [ofBlock] at same
  | .rule => by
      intro other r s u v same told
      cases other with
      | rule => exact ⟨rfl, by simpa [ofBlock] using same, told⟩
      | list ordered _ _ => cases ordered <;> simp [ofBlock] at same
      | _ => simp [ofBlock] at same
  | .raw text => by
      intro other r s u v same told
      cases other with
      | raw text' =>
          simp only [ofBlock, List.cons_append, List.cons.injEq, true_and] at same
          obtain ⟨rfl, rest⟩ := field_append_inj same
          exact ⟨rfl, rest, told⟩
      | list ordered _ _ => cases ordered <;> simp [ofBlock] at same
      | _ => simp [ofBlock] at same

theorem node_selfDelimiting : ∀ node : Node, NodeSelfDelimiting node
  | { id, span, block } => by
      intro other r s u v same told
      cases other with
      | mk id' span' block' =>
          simp only [ofNode, Node.codeLineCounts] at same told
          obtain ⟨contents, ends⟩ := block_selfDelimiting block block' r s u v same told
          refine ⟨?_, ends⟩
          simp [Node.erased, contents]

theorem nodes_selfDelimiting : ∀ nodes : List Node, ∀ node ∈ nodes, NodeSelfDelimiting node
  | [], _, member => nomatch member
  | node :: rest, other, member => by
      rcases List.mem_cons.mp member with same | later
      · rw [same]
        exact node_selfDelimiting node
      · exact nodes_selfDelimiting rest other later

theorem items_selfDelimiting : ∀ items : List (List Node), ∀ item ∈ items,
    SelfDelimiting ofNodes Node.codeLineCountsOfAll Node.erasedAll item
  | [], _, member => nomatch member
  | item :: rest, other, member => by
      rcases List.mem_cons.mp member with same | later
      · rw [same]
        exact nodes_selfDelimiting_of_forall (nodes_selfDelimiting item)
      · exact items_selfDelimiting rest other later

end

end Fingerprint

/-! ## How far fingerprints are faithful -/

/-- **The content is the fingerprint together with the numbers of code lines.** -/
theorem Node.erased_block_eq_iff (left right : Node) :
    left.block.erased = right.block.erased ↔ left.fingerprint = right.fingerprint ∧
      left.block.codeLineCounts = right.block.codeLineCounts := by
  constructor
  · intro same
    refine ⟨Node.fingerprint_eq_of_erased same, ?_⟩
    rw [← Block.codeLineCounts_erased left.block, same, Block.codeLineCounts_erased]
  · rintro ⟨fingerprints, counts⟩
    have codes : Fingerprint.ofBlock left.block = Fingerprint.ofBlock right.block := by
      rw [Node.fingerprint, Node.fingerprint, Fingerprint.mk.injEq] at fingerprints
      exact String.ofList_injective fingerprints
    exact (Fingerprint.block_selfDelimiting left.block right.block [] [] [] [] (by rw [codes])
      (by rw [counts])).1

/-- **Fingerprints are faithful exactly where they do not hide a number of code lines.**  Two nodes
have the same content just when their fingerprints agree and their code blocks, in the order of the
document, have the same numbers of lines; so equal fingerprints mean equal content for just those
pairs in which they also mean equal numbers of lines. -/
theorem fingerprint_faithful (left right : Node) :
    (left.block.erased = right.block.erased ↔ left.fingerprint = right.fingerprint ∧
      left.block.codeLineCounts = right.block.codeLineCounts) ∧
    ((left.fingerprint = right.fingerprint ↔ left.block.erased = right.block.erased) ↔
      (left.fingerprint = right.fingerprint →
        left.block.codeLineCounts = right.block.codeLineCounts)) := by
  have content := Node.erased_block_eq_iff left right
  refine ⟨content, ⟨fun faithful same => (content.mp (faithful.mp same)).2, fun told => ?_⟩⟩
  exact ⟨fun same => content.mpr ⟨same, told same⟩, fun same => (content.mp same).1⟩

/-- A code block with one line of thirty bytes. -/
def oneLineNode : Node :=
  ⟨⟨1⟩, ⟨0, 38⟩, .code "" ["0:0:0:0:0:0:0:0:0:0:0:6:abcdef"]⟩

/-- A code block with twelve empty lines and one more. -/
def manyLinesNode : Node :=
  ⟨⟨2⟩, ⟨0, 26⟩, .code "" ["", "", "", "", "", "", "", "", "", "", "", "", "abcdef"]⟩

/-- **Not all fingerprints are faithful.**  `#1` and `30:` read like `#13` and `0:`, and the one
line spells out the frames of the other twelve. -/
theorem fingerprint_collision :
    oneLineNode.fingerprint = manyLinesNode.fingerprint ∧
      oneLineNode.block.erased ≠ manyLinesNode.block.erased := by
  have codes : Fingerprint.ofBlock oneLineNode.block = Fingerprint.ofBlock manyLinesNode.block := by
    cbv
  refine ⟨?_, ?_⟩
  · rw [Node.fingerprint, Node.fingerprint, codes]
  · simp [oneLineNode, manyLinesNode, Block.erased]

end MarkdownPager
