import Mathlib.Data.List.Basic
import MarkdownPager.Proofs.Surroundings

/-!
# Links of a block and of its lines

A link of a block is recorded on the line that it begins on.  Lines are made in steps that could
lose one: a line is dropped at the end of running text if there is nothing on it, it is cut off at a
hard break, and lists and quotes make all lines anew with a marker in front.

The links of a block are read off its content (`Block.links`), each before the links inside it, and
those of lines from the first line to the last (`linksOn`).  Each step of rendering keeps the one
equal to the other, and `Renderer.links_render` says so for a node.
-/

namespace MarkdownPager

universe u

/-! ## Links of the content -/

mutual

/-- The links of an inline in the order in which they begin. -/
def Inline.links : Inline → List LinkTarget
  | .link url children => ⟨Inline.plainText children, url⟩ :: Inline.linksOfAll children
  | .emphasis children | .strong children | .strikethrough children => Inline.linksOfAll children
  | .text _ | .code _ | .image .. | .softBreak | .hardBreak | .html _ | .taskMarker _
  | .footnoteRef _ => []

/-- The links of running text. -/
def Inline.linksOfAll : List Inline → List LinkTarget
  | [] => []
  | inline :: rest => inline.links ++ Inline.linksOfAll rest

end

mutual

/-- The links of a block in the order in which they begin. -/
def Block.links : Block → List LinkTarget
  | .paragraph inlines | .heading _ inlines => Inline.linksOfAll inlines
  | .list _ _ items => Node.linksOfItems items
  | .quote children => Node.linksOfAll children
  | .code .. | .rule | .raw _ => []

/-- The links of a node. -/
def Node.links : Node → List LinkTarget
  | { block, .. } => block.links

/-- The links of nodes. -/
def Node.linksOfAll : List Node → List LinkTarget
  | [] => []
  | node :: rest => node.links ++ Node.linksOfAll rest

/-- The links of list items. -/
def Node.linksOfItems : List (List Node) → List LinkTarget
  | [] => []
  | item :: rest => Node.linksOfAll item ++ Node.linksOfItems rest

end

/-! ## Links of lines -/

/-- The links that begin on lines, from the first line to the last. -/
def linksOn (lines : List RenderedLine) : List LinkTarget := lines.flatMap (·.links)

@[simp] theorem linksOn_nil : linksOn [] = [] := rfl

@[simp] theorem linksOn_append (before after : List RenderedLine) :
    linksOn (before ++ after) = linksOn before ++ linksOn after :=
  List.flatMap_append

theorem linksOn_singleton (line : RenderedLine) : linksOn [line] = line.links :=
  List.flatMap_singleton ..

/-- Lines without links. -/
theorem linksOn_eq_nil {lines : List RenderedLine} (bare : ∀ line ∈ lines, line.links = []) :
    linksOn lines = [] :=
  List.flatMap_eq_nil_iff.mpr bare

/-- The links of a block, apart from the lines that they are on. -/
theorem map_snd_links (block : RenderedBlock) : block.links.map (·.2) = linksOn block.lines := by
  rw [RenderedBlock.links, linksOn, List.map_flatMap]
  conv_rhs => rw [← List.zipIdx_map_fst 0 block.lines, List.flatMap_map]
  simp only [List.map_map, Function.comp_def, List.map_id']

/-- **A marker changes no link.** -/
@[simp] theorem linksOn_markLines (lines : List RenderedLine) (first rest : String)
    (style : TextStyle) : linksOn (markLines lines first rest style) = linksOn lines := by
  cases lines with
  | nil => rfl
  | cons line more =>
      rw [markLines, linksOn, linksOn, List.flatMap_cons, List.flatMap_cons, List.flatMap_map]
      rfl

namespace LineBuilder

/-- The links noted so far. -/
def links (builder : LineBuilder) : List LinkTarget :=
  linksOn builder.lines ++ builder.current.links

@[simp] theorem links_pushText (builder : LineBuilder) (text : String) (style : TextStyle) :
    (builder.pushText text style).links = builder.links := by
  rw [pushText]
  split <;> rfl

@[simp] theorem links_pushLink (builder : LineBuilder) (link : LinkTarget) :
    (builder.pushLink link).links = builder.links ++ [link] :=
  (List.append_assoc ..).symm

@[simp] theorem links_breakLine (builder : LineBuilder) : builder.breakLine.links = builder.links := by
  rw [breakLine, links, linksOn_append, linksOn_singleton, List.append_nil, links]

/-- **The line that is dropped at the end has no link.** -/
@[simp] theorem linksOn_finish (builder : LineBuilder) : linksOn builder.finish = builder.links := by
  rw [links]
  rcases builder.finish_cases with ⟨-, empty, dropped⟩ | kept
  · rw [dropped, empty, List.append_nil]
  · rw [kept, linksOn_append, linksOn_singleton]

end LineBuilder

namespace Renderer

/-! ## Running text -/

mutual

/-- An inline notes its links behind those that are there. -/
theorem links_addInline (appearance : Appearance) (base : TextStyle) :
    ∀ (inline : Inline) (around : Surroundings) (builder : LineBuilder),
      (addInline appearance base around inline builder).links = builder.links ++ inline.links
  | .text _, _, builder | .code _, _, builder | .image .., _, builder | .softBreak, _, builder
  | .taskMarker _, _, builder | .footnoteRef _, _, builder => by
      rw [addInline, LineBuilder.links_pushText, Inline.links, List.append_nil]
  | .html _, _, builder => by
      rw [addInline, Inline.links, List.append_nil]
  | .hardBreak, _, builder => by
      rw [addInline, LineBuilder.links_breakLine, Inline.links, List.append_nil]
  | .emphasis children, _, builder | .strong children, _, builder
  | .strikethrough children, _, builder => by
      rw [addInline, links_addInlines, Inline.links]
  | .link url children, around, builder => by
      rw [addInline, links_addInlines, LineBuilder.links_pushLink, Inline.links, List.append_assoc,
        List.singleton_append]

/-- Running text notes its links in order. -/
theorem links_addInlines (appearance : Appearance) (base : TextStyle) :
    ∀ (inlines : List Inline) (around : Surroundings) (builder : LineBuilder),
      (addInlines appearance base around inlines builder).links =
        builder.links ++ Inline.linksOfAll inlines
  | [], _, builder => by
      rw [addInlines, Inline.linksOfAll, List.append_nil]
  | inline :: rest, around, builder => by
      rw [addInlines, links_addInlines appearance base rest,
        links_addInline appearance base inline, Inline.linksOfAll, List.append_assoc]

end

theorem linksOn_inlineLines (appearance : Appearance) (base : TextStyle) (inlines : List Inline) :
    linksOn (inlineLines appearance base inlines) = Inline.linksOfAll inlines := by
  rw [inlineLines_eq, LineBuilder.linksOn_finish, links_addInlines]
  rfl

/-! ## Lines without links -/

/-- Text alone makes a line without links. -/
theorem links_current_pushText {builder : LineBuilder} (bare : builder.current.links = [])
    (text : String) (style : TextStyle) : (builder.pushText text style).current.links = [] := by
  rw [LineBuilder.pushText]
  split <;> exact bare

theorem links_codeLine (appearance : Appearance) (runs : List StyledRun) :
    (codeLine appearance runs).links = [] := by
  have added : ∀ builder : LineBuilder, builder.current.links = [] →
      (runs.foldl (fun lines run => lines.pushText run.text
        (.ofConcrete (run.style.toConcrete appearance))) builder).current.links = [] := by
    induction runs with
    | nil => exact fun _ bare => bare
    | cons run runs ih => exact fun _ bare => ih _ (links_current_pushText bare _ _)
  exact added _ (links_current_pushText rfl _ _)

variable {σ : Type u} (renderer : Renderer σ)

theorem linksOn_codeLines (info : String) (lines : List String) :
    linksOn (codeLines renderer info lines) = [] := by
  refine linksOn_eq_nil fun line member => ?_
  rcases List.mem_append.mp member with header | code
  · rw [codeHeader] at header
    split at header
    · rw [List.mem_singleton.mp header]
      exact links_current_pushText rfl _ _
    · simp at header
  · obtain ⟨runs, -, rfl⟩ := List.mem_map.mp code
    exact links_codeLine _ _

theorem linksOn_rawLines (text : String) : linksOn (rawLines text) = [] := by
  refine linksOn_eq_nil fun line member => ?_
  obtain ⟨cs, -, rfl⟩ := List.mem_map.mp member
  exact links_current_pushText rfl _ _

/-! ## Blocks -/

mutual

theorem linksOn_blockLines : ∀ block : Block, linksOn (blockLines renderer block) = block.links
  | .paragraph inlines | .heading _ inlines => by
      rw [blockLines, linksOn_inlineLines, Block.links]
  | .code info lines => by
      rw [blockLines, linksOn_codeLines, Block.links]
  | .list ordered start items => by
      rw [blockLines, linksOn_itemLines items, Block.links]
  | .quote children => by
      rw [blockLines, linksOn_markLines, linksOn_childLines children, Block.links]
  | .rule => by
      rw [blockLines, LineBuilder.linksOn_finish, LineBuilder.links_pushText, Block.links]
      rfl
  | .raw text => by
      rw [blockLines, linksOn_rawLines, Block.links]

theorem linksOn_nodeLines : ∀ node : Node, linksOn (nodeLines renderer node) = node.links
  | { block, .. } => by
      rw [nodeLines, linksOn_blockLines block, Node.links]

/-- The empty lines between children have no links. -/
theorem linksOn_childLines : ∀ (nodes : List Node) {first : Bool},
    linksOn (childLines renderer first nodes) = Node.linksOfAll nodes
  | [], _ => by
      rw [childLines, linksOn_nil, Node.linksOfAll]
  | node :: rest, first => by
      have gap : linksOn (if !first && standsApart node.block then [{}] else []) = [] := by
        split <;> rfl
      rw [childLines, linksOn_append, linksOn_append, gap, List.nil_append, linksOn_nodeLines node,
        linksOn_childLines rest, Node.linksOfAll]

/-- The line that is made up for an empty item has no links. -/
theorem linksOn_itemLines : ∀ (items : List (List Node)) {ordered : Bool} {start : UInt64}
    {index : Nat}, linksOn (itemLines renderer ordered start index items) = Node.linksOfItems items
  | [], _, _, _ => by
      rw [itemLines, linksOn_nil, Node.linksOfItems]
  | item :: rest, ordered, start, index => by
      have inner : ∀ lines : List RenderedLine,
          linksOn (if lines.isEmpty then [{}] else lines) = linksOn lines := by
        intro lines
        split
        · rename_i empty
          rw [List.isEmpty_iff.mp empty]
          rfl
        · rfl
      rw [itemLines, linksOn_append, linksOn_markLines, inner, linksOn_childLines item,
        linksOn_itemLines rest, Node.linksOfItems]

end

/-- **Rendering collects every link exactly once.**  The links on the lines of a node, line by line,
are those of its block in the order in which they begin. -/
theorem links_render (node : Node) :
    linksOn (renderer.render node).lines = node.block.links ∧
      (renderer.render node).links.map (·.2) = node.block.links := by
  have lines : linksOn (renderer.render node).lines = node.block.links :=
    linksOn_blockLines renderer node.block
  exact ⟨lines, (map_snd_links _).trans lines⟩

end Renderer

end MarkdownPager
