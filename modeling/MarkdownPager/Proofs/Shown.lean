import MarkdownPager.Proofs.Nesting

/-!
# What a document shows at its leaves

Lists and quotes only arrange what is in them.  What is shown is at the leaves: running text and
code blocks, apart from rules and raw text.  `Node.shown` lists the leaves of a node at every depth,
in order, and `Markdown.Tree.shown` those of a tree.

Reading makes nothing at a leaf out of anything else: the leaves of a document are the leaves of the
forest that its text is read as, with the code blocks cut into lines (`Document.shown_parse`).
Running text that stands directly in a container is gathered into paragraphs, one for each maximal
run, but the pieces of text and their order are the same.
-/

namespace MarkdownPager

/-- What is shown at a leaf: a piece of running text, or a code block, told as a `κ`. -/
inductive Shown (κ : Type) where
  | inline (inline : Inline)
  | code (code : κ)

/-- The code block of a document: its info string and its lines. -/
structure CodeBlock where
  info : String
  lines : List String

namespace Markdown

/-- The code block of a text: what is behind the fence, if it has one, and its content. -/
structure CodeSource where
  info : Option String
  content : String

/-- The code block that is read. -/
def CodeSource.read (source : CodeSource) : CodeBlock :=
  ⟨Text.trim (source.info.getD ""), OfEvents.codeLines source.content⟩

end Markdown

open Markdown (CodeSource)

namespace Shown

/-- The leaf with its code block told in another way. -/
def map {κ μ : Type} (f : κ → μ) : Shown κ → Shown μ
  | .inline piece => .inline piece
  | .code block => .code (f block)

/-- The code block of a leaf that is one. -/
def code? {κ : Type} : Shown κ → Option κ
  | .inline _ => none
  | .code block => some block

/-- The pieces of running text stay the same. -/
theorem map_inlines {κ μ : Type} (f : κ → μ) (inlines : List Inline) :
    (inlines.map inline).map (map f) = inlines.map inline := by
  rw [List.map_map]
  rfl

/-- The code blocks of leaves told in another way are those code blocks told in that way. -/
theorem filterMap_code_map {κ μ : Type} (f : κ → μ) (leaves : List (Shown κ)) :
    (leaves.map (map f)).filterMap code? = (leaves.filterMap code?).map f := by
  rw [List.filterMap_map, List.map_filterMap]
  refine congrArg (List.filterMap · leaves) (funext fun leaf => ?_)
  cases leaf <;> rfl

end Shown

/-! ## Leaves of nodes -/

mutual

/-- The leaves in a block, at every depth and in order. -/
def Block.shown : Block → List (Shown CodeBlock)
  | .paragraph inlines | .heading _ inlines => inlines.map .inline
  | .code info lines => [.code ⟨info, lines⟩]
  | .list _ _ items => Node.shownOfItems items
  | .quote children => Node.shownOfAll children
  | .rule | .raw _ => []

/-- The leaves in a node. -/
def Node.shown : Node → List (Shown CodeBlock)
  | { block, .. } => block.shown

/-- The leaves in a list of nodes. -/
def Node.shownOfAll : List Node → List (Shown CodeBlock)
  | [] => []
  | node :: rest => node.shown ++ Node.shownOfAll rest

/-- The leaves in list items. -/
def Node.shownOfItems : List (List Node) → List (Shown CodeBlock)
  | [] => []
  | item :: rest => Node.shownOfAll item ++ Node.shownOfItems rest

end

theorem Node.shownOfAll_eq_flatMap (nodes : List Node) :
    Node.shownOfAll nodes = nodes.flatMap Node.shown := by
  induction nodes with
  | nil => rfl
  | cons node rest ih => rw [Node.shownOfAll, ih, List.flatMap_cons]

/-- The code blocks in a list of nodes, at every depth and in order. -/
def Node.codeBlocks (nodes : List Node) : List CodeBlock :=
  (shownOfAll nodes).filterMap Shown.code?

namespace Part

/-- The leaves in a part of a container. -/
def shown : Part → List (Shown CodeBlock)
  | .running _ _ inline => inline.toList.map .inline
  | .block node => node.shown

theorem flatMap_shown_of_isRunning {run : List Part}
    (running : ∀ part ∈ run, part.isRunning = true) :
    run.flatMap shown = (run.filterMap Part.inline?).map .inline := by
  induction run with
  | nil => rfl
  | cons part rest ih =>
      rw [List.forall_mem_cons] at running
      rw [List.flatMap_cons, ih running.2]
      cases part with
      | running id span inline => cases inline <;> rfl
      | block node => exact absurd running.1 Bool.false_ne_true

/-- **Gathering text into paragraphs loses nothing and moves nothing.** -/
theorem shownOfAll_gather (context : EventContext) (parts : List Part) :
    Node.shownOfAll (gather context parts) = parts.flatMap shown := by
  induction parts using runs_induction with
  | nil => rfl
  | block node parts ih =>
      rw [gather_block, Node.shownOfAll, ih, List.flatMap_cons]
      rfl
  | run id span inline more parts running stops ih =>
      have whole : ∀ part ∈ Part.running id span inline :: more, part.isRunning = true :=
        List.forall_mem_cons.mpr ⟨rfl, running⟩
      rw [gather_run (List.cons_ne_nil _ _) whole stops, List.flatMap_append,
        List.flatMap_cons, flatMap_shown_of_isRunning running, ← ih]
      show (List.map _ (_ ++ _) : List (Shown CodeBlock)) ++ _ = _
      rw [List.map_append]
      rfl

end Part

namespace Markdown.Tree

/-! ## Leaves of trees -/

mutual

/-- The leaves in a tree, at every depth and in order. -/
def shown : Tree → List (Shown CodeSource)
  | .leaf content _ => if content.isInline then content.inline?.toList.map .inline else []
  | .node tag _ children =>
    match tag with
    | .paragraph | .heading _ => (inlinesOf children).map .inline
    | .code info => [.code ⟨info, codeOf children⟩]
    | .list _ => shownOfItems children
    | .quote => shownOf children
    | .emphasis | .strong | .strikethrough | .link _ | .image _ =>
      (OfEvents.markedUp tag (inlinesOf children)).toList.map .inline
    | .item | .other => []

/-- The leaves in a forest. -/
def shownOf : List Tree → List (Shown CodeSource)
  | [] => []
  | tree :: rest => tree.shown ++ shownOf rest

/-- The leaves in the items of a list that holds a forest. -/
def shownOfItems : List Tree → List (Shown CodeSource)
  | [] => []
  | .node .item _ children :: rest => shownOf children ++ shownOfItems rest
  | _ :: rest => shownOfItems rest

end

/-- The code blocks in a forest, at every depth and in order. -/
def codeSources (forest : List Tree) : List CodeSource :=
  (shownOf forest).filterMap Shown.code?

/-! ## Reading keeps the leaves -/

mutual

/-- The leaves of what a tree makes are the leaves of the tree. -/
theorem shown_part (context : EventContext) : ∀ (tree : Tree) (behind : Nat),
    (part context behind tree).shown = tree.shown.map (Shown.map CodeSource.read)
  | .leaf content span, behind => by
      cases content <;> rfl
  | .node tag span children, behind => by
      cases tag with
      | paragraph => exact (Shown.map_inlines _ _).symm
      | heading level => exact (Shown.map_inlines _ _).symm
      | list start => exact shownOfItems_itemsOf context children (behind + 1)
      | quote =>
          show Node.shownOfAll (Part.gather context (partsOf context (behind + 1) children)) = _
          rw [Part.shownOfAll_gather, flatMap_shown_partsOf context children, shown]
      | _ => rfl

theorem flatMap_shown_partsOf (context : EventContext) : ∀ (forest : List Tree) (behind : Nat),
    (partsOf context behind forest).flatMap Part.shown =
      (shownOf forest).map (Shown.map CodeSource.read)
  | [], behind => rfl
  | tree :: rest, behind => by
      rw [partsOf, List.flatMap_cons, shown_part context tree,
        flatMap_shown_partsOf context rest, shownOf, List.map_append]

theorem shownOfItems_itemsOf (context : EventContext) : ∀ (forest : List Tree) (behind : Nat),
    Node.shownOfItems (itemsOf context behind forest) =
      (shownOfItems forest).map (Shown.map CodeSource.read)
  | [], behind => rfl
  | .leaf content span :: rest, behind => shownOfItems_itemsOf context rest behind
  | .node tag span children :: rest, behind => by
      have more := shownOfItems_itemsOf context rest behind
      cases tag with
      | item =>
          rw [itemsOf, Node.shownOfItems, Part.shownOfAll_gather,
            flatMap_shown_partsOf context children, more, shownOfItems, List.map_append]
      | _ => exact more

end

/-- **The leaves of the nodes are the leaves of the forest.** -/
theorem shownOfAll_nodesOf (context : EventContext) (behind : Nat) (forest : List Tree) :
    Node.shownOfAll (nodesOf context behind forest) =
      (shownOf forest).map (Shown.map CodeSource.read) := by
  rw [nodesOf, Part.shownOfAll_gather, flatMap_shown_partsOf]

/-- The code blocks that are read are those of the forest, in order. -/
theorem codeBlocks_nodesOf (context : EventContext) (behind : Nat) (forest : List Tree) :
    Node.codeBlocks (nodesOf context behind forest) = (codeSources forest).map CodeSource.read := by
  rw [Node.codeBlocks, shownOfAll_nodesOf, Shown.filterMap_code_map, codeSources]

end Markdown.Tree

/-- **The leaves of a document are the leaves of the forest** that its text is read as. -/
theorem Document.shown_parse {reader : Markdown.Reader} {source : String}
    {forest : List Markdown.Tree} (reads : reader.Reads source forest) (firstId : Nat) :
    Node.shownOfAll (Document.parse reader firstId source).1.blocks =
      (Markdown.Tree.shownOf forest).map (Shown.map CodeSource.read) := by
  rw [Document.blocks_parse reads, Markdown.Tree.shownOfAll_nodesOf]

end MarkdownPager
