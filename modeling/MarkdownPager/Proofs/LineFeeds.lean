import Mathlib
import MarkdownPager.Proofs.Alike
import MarkdownPager.Proofs.CodeBlocks

/-!
# Where a rendered line is more than one line

A line of a rendered block is counted, drawn and searched for links as one line, so no line feed
should be on it.  Most of what is shown cannot bring one: code and raw text are cut at line feeds, a
soft break is a blank, a hard break ends the line, and all markers and bars are free of them.

What is left are the texts that are put on a line as they come.  These are the text, the code and
the footnote names in running text, the destination and the description of an image, and the info
string above a code block.  `Inline.breaks` and `Shown.breaks` tell whether one of them has a line
feed, and this decides the matter: a rendering has a line feed on a line exactly if one of its
leaves breaks (`Renderer.any_isBroken_blockLines`).

There are such leaves.  The description of an image is flattened to a text in which each hard break
is a line feed (`Renderer.lines_broken_by_image`), and a character reference can stand for one
anywhere.
-/

namespace MarkdownPager

universe u

open Markdown (CodeSource)

namespace Text

/-- Whether a text has a line feed. -/
def hasLineFeed (s : String) : Bool := s.toList.contains '\n'

theorem hasLineFeed_eq_true_iff {s : String} : hasLineFeed s = true ↔ '\n' ∈ s.toList :=
  List.contains_iff_mem

theorem hasLineFeed_eq_false_iff {s : String} : hasLineFeed s = false ↔ '\n' ∉ s.toList := by
  rw [← hasLineFeed_eq_true_iff, Bool.not_eq_true]

@[simp] theorem hasLineFeed_append (s t : String) :
    hasLineFeed (s ++ t) = (hasLineFeed s || hasLineFeed t) := by
  rw [hasLineFeed, String.toList_append, Bool.eq_iff_iff]
  simp [hasLineFeed_eq_true_iff]

/-- A text made of others has a line feed if one of them has. -/
theorem hasLineFeed_join (texts : List String) :
    hasLineFeed (String.join texts) = texts.any hasLineFeed := by
  induction texts with
  | nil => rfl
  | cons text rest ih => rw [String.join_cons, hasLineFeed_append, ih, List.any_cons]

/-- A text made of some characters of another has no line feed if the other has none. -/
theorem hasLineFeed_eq_false_of_subset {s t : String} (subset : t.toList ⊆ s.toList)
    (unbroken : '\n' ∉ s.toList) : hasLineFeed t = false :=
  hasLineFeed_eq_false_iff.mpr fun inside => unbroken (subset inside)

/-- A character many times over is no line feed unless it is one. -/
theorem hasLineFeed_replicate (n : Nat) {c : Char} (other : '\n' ≠ c) :
    hasLineFeed (.ofList (List.replicate n c)) = false := by
  rw [hasLineFeed_eq_false_iff, String.toList_ofList]
  exact fun inside => other (List.eq_of_mem_replicate inside)

theorem subset_of_dropBytes {n : Nat} {cs : List Char} :
    ∀ {left : List Char}, dropBytes n cs = some left → left ⊆ cs := by
  fun_induction dropBytes n cs with
  | case1 cs => exact fun same => Option.some.inj same ▸ List.Subset.refl _
  | case2 => exact nofun
  | case3 n c cs fits ih => exact fun same => List.subset_cons_of_subset c (ih same)
  | case4 => exact nofun

theorem subset_of_takeBytes {n : Nat} {cs : List Char} :
    ∀ {taken : List Char}, takeBytes n cs = some taken → taken ⊆ cs := by
  fun_induction takeBytes n cs with
  | case1 cs => exact fun same => Option.some.inj same ▸ List.nil_subset _
  | case2 => exact nofun
  | case3 n c cs fits ih =>
      intro taken same
      obtain ⟨more, read, rfl⟩ := Option.map_eq_some_iff.mp same
      exact List.cons_subset_cons c (ih read)
  | case4 => exact nofun

/-- The characters of a slice are characters of the text. -/
theorem subset_of_slice? {s t : String} {start stop : Nat} (slice : slice? s start stop = some t) :
    t.toList ⊆ s.toList := by
  unfold slice? at slice
  split at slice
  · obtain ⟨cs, read, rfl⟩ := Option.map_eq_some_iff.mp slice
    obtain ⟨behind, dropped, taken⟩ := Option.bind_eq_some_iff.mp read
    rw [String.toList_ofList]
    exact List.Subset.trans (subset_of_takeBytes taken) (subset_of_dropBytes dropped)
  · simp at slice

end Text

open Text (hasLineFeed)

/-! ## Leaves that break a line -/

mutual

/-- Whether an inline puts a line feed on a line. -/
def Inline.breaks : Inline → Bool
  | .text t | .code t => hasLineFeed t
  | .emphasis children | .strong children | .strikethrough children | .link _ children =>
    Inline.breaksAny children
  | .image url alt => hasLineFeed (Text.trim alt) || hasLineFeed url
  | .footnoteRef name => hasLineFeed name
  | .softBreak | .hardBreak | .html _ | .taskMarker _ => false

/-- Whether one of several inlines puts a line feed on a line. -/
def Inline.breaksAny : List Inline → Bool
  | [] => false
  | inline :: rest => inline.breaks || Inline.breaksAny rest

end

theorem Inline.breaksAny_eq_any (inlines : List Inline) :
    breaksAny inlines = inlines.any Inline.breaks := by
  induction inlines with
  | nil => rfl
  | cons inline rest ih => rw [breaksAny, ih, List.any_cons]

/-- Whether a leaf puts a line feed on a line.  Of a code block it is the info string that may, and
only if it is shown. -/
def Shown.breaks : Shown CodeBlock → Bool
  | .inline piece => piece.breaks
  | .code block => 1 < block.lines.length && hasLineFeed block.info

/-! ## Broken lines -/

/-- Whether a line is more than one line. -/
def RenderedLine.isBroken (line : RenderedLine) : Bool := hasLineFeed line.plain

open RenderedLine (isBroken)

/-- The segments of a line tell the same. -/
theorem RenderedLine.Alike.isBroken_eq {left right : RenderedLine} (alike : left.Alike right) :
    left.isBroken = left.segments.any (hasLineFeed ·.text) := by
  rw [isBroken, alike.plain_eq_join, Text.hasLineFeed_join, texts, List.any_map]
  rfl

theorem RenderedLine.isBroken_marked (line : RenderedLine) (marker : String) (style : TextStyle) :
    (line.marked marker style).isBroken = (hasLineFeed marker || line.isBroken) :=
  Text.hasLineFeed_append marker line.plain

/-- Markers without line feeds break no line. -/
theorem any_isBroken_markLines {first rest : String} (unbroken : hasLineFeed first = false)
    (unbroken' : hasLineFeed rest = false) (lines : List RenderedLine) (style : TextStyle) :
    (markLines lines first rest style).any isBroken = lines.any isBroken := by
  cases lines with
  | nil => rfl
  | cons line more =>
      rw [markLines, List.any_cons, List.any_cons, List.any_map, RenderedLine.isBroken_marked,
        unbroken, Bool.false_or]
      congr 2
      funext line
      rw [Function.comp_apply, RenderedLine.isBroken_marked, unbroken', Bool.false_or]

namespace LineBuilder

/-- Whether one of the lines so far is broken. -/
def isBroken (builder : LineBuilder) : Bool :=
  builder.lines.any RenderedLine.isBroken || builder.current.isBroken

variable (builder : LineBuilder)

theorem isBroken_pushText (text : String) (style : TextStyle) :
    (builder.pushText text style).isBroken = (builder.isBroken || hasLineFeed text) := by
  have current : (builder.pushText text style).current.isBroken =
      (builder.current.isBroken || hasLineFeed text) := by
    rw [RenderedLine.isBroken, plain_pushText, Text.hasLineFeed_append]
    rfl
  have lines : (builder.pushText text style).lines = builder.lines := by
    unfold pushText
    split <;> rfl
  rw [isBroken, isBroken, lines, current, Bool.or_assoc]

theorem isBroken_pushLink (link : LinkTarget) :
    (builder.pushLink link).isBroken = builder.isBroken := rfl

theorem isBroken_breakLine : builder.breakLine.isBroken = builder.isBroken := by
  show ((builder.lines ++ [builder.current]).any _ || false) = _
  rw [List.any_append, List.any_cons, List.any_nil, Bool.or_false, Bool.or_false]
  rfl

variable {builder}

/-- The line that is dropped at the end has no text. -/
theorem any_isBroken_finish {other : LineBuilder} (alike : builder.Alike other) :
    builder.finish.any RenderedLine.isBroken = builder.isBroken := by
  rw [isBroken]
  rcases builder.finish_cases with ⟨empty, -, dropped⟩ | kept
  · rw [dropped, alike.current.isBroken_eq, empty, List.any_nil, Bool.or_false]
  · rw [kept, List.any_append, List.any_cons, List.any_nil, Bool.or_false]

end LineBuilder

namespace Renderer

/-! ## Running text -/

/-- The box of a task has no line feed. -/
theorem hasLineFeed_taskBox (done : Bool) : hasLineFeed (Inline.taskBox done) = false := by
  cases done <;> decide

theorem hasLineFeed_footnoteMark (name : String) :
    hasLineFeed (Inline.footnoteMark name) = hasLineFeed name := by
  have before : hasLineFeed "[^" = false := by decide
  have behind : hasLineFeed "]" = false := by decide
  rw [Inline.footnoteMark, Text.hasLineFeed_append, Text.hasLineFeed_append, before, behind,
    Bool.false_or, Bool.or_false]

theorem hasLineFeed_imageText (url alt : String) :
    hasLineFeed (imageText url alt) = (hasLineFeed (Text.trim alt) || hasLineFeed url) := by
  have before : hasLineFeed "[image: " = false := by decide
  have between : hasLineFeed "] (" = false := by decide
  have behind : hasLineFeed ")" = false := by decide
  have described : hasLineFeed (if Text.trim alt = "" then "image" else Text.trim alt) =
      hasLineFeed (Text.trim alt) := by
    split
    · rename_i empty
      rw [empty]
      decide
    · rfl
  simp only [imageText, Text.hasLineFeed_append, before, between, behind, described,
    Bool.false_or, Bool.or_false]

mutual

/-- An inline breaks a line on top of those that are broken. -/
theorem isBroken_addInline (appearance : Appearance) (base : TextStyle) :
    ∀ (inline : Inline) (around : Surroundings) (builder : LineBuilder),
      (addInline appearance base around inline builder).isBroken =
        (builder.isBroken || inline.breaks)
  | .text _, _, builder | .code _, _, builder => by
      rw [addInline, LineBuilder.isBroken_pushText, Inline.breaks]
  | .softBreak, _, builder => by
      have blank : hasLineFeed " " = false := by decide
      rw [addInline, LineBuilder.isBroken_pushText, Inline.breaks, blank]
  | .image url alt, _, builder => by
      rw [addInline, LineBuilder.isBroken_pushText, Inline.breaks, hasLineFeed_imageText]
  | .taskMarker done, _, builder => by
      rw [addInline, LineBuilder.isBroken_pushText, Inline.breaks, hasLineFeed_taskBox]
  | .footnoteRef name, _, builder => by
      rw [addInline, LineBuilder.isBroken_pushText, Inline.breaks, hasLineFeed_footnoteMark]
  | .html _, _, builder => by
      rw [addInline, Inline.breaks, Bool.or_false]
  | .hardBreak, _, builder => by
      rw [addInline, LineBuilder.isBroken_breakLine, Inline.breaks, Bool.or_false]
  | .emphasis children, _, builder | .strong children, _, builder
  | .strikethrough children, _, builder => by
      rw [addInline, isBroken_addInlines, Inline.breaks]
  | .link url children, _, builder => by
      rw [addInline, isBroken_addInlines, LineBuilder.isBroken_pushLink, Inline.breaks]

theorem isBroken_addInlines (appearance : Appearance) (base : TextStyle) :
    ∀ (inlines : List Inline) (around : Surroundings) (builder : LineBuilder),
      (addInlines appearance base around inlines builder).isBroken =
        (builder.isBroken || Inline.breaksAny inlines)
  | [], _, builder => by
      rw [addInlines, Inline.breaksAny, Bool.or_false]
  | inline :: rest, around, builder => by
      rw [addInlines, isBroken_addInlines appearance base rest,
        isBroken_addInline appearance base inline, Inline.breaksAny, Bool.or_assoc]

end

/-- Running text is broken where one of its inlines breaks it. -/
theorem any_isBroken_inlineLines (appearance : Appearance) (base : TextStyle)
    (inlines : List Inline) :
    (inlineLines appearance base inlines).any isBroken = inlines.any Inline.breaks := by
  have alike := addInlines_alike appearance appearance base inlines {} LineBuilder.alike_empty
  rw [inlineLines_eq, LineBuilder.any_isBroken_finish alike, isBroken_addInlines,
    Inline.breaksAny_eq_any]
  rfl

/-! ## Code and raw text -/

/-- No run of highlighted code has a line feed, whatever the grammar does. -/
theorem hasLineFeed_of_mem_highlightCode {τ : Type u} {code : String}
    {grammar : Option (Grammar τ)} {rules : ThemeRules} {runs : List StyledRun}
    (member : runs ∈ highlightCode code grammar rules) :
    ∀ run ∈ runs, hasLineFeed run.text = false := by
  obtain ⟨⟨line, tokens⟩, among, rfl⟩ := List.mem_map.mp member
  have unbroken := (Text.areLines_lines code).unbroken line (List.of_mem_zip among).1
  refine List.forall_mem_map.mpr fun token _ => ?_
  show hasLineFeed ((Text.slice? line token.start token.stop).getD "") = false
  cases slice : Text.slice? line token.start token.stop with
  | none => rfl
  | some text => exact Text.hasLineFeed_eq_false_of_subset (Text.subset_of_slice? slice) unbroken

theorem isBroken_codeLine (appearance : Appearance) {runs : List StyledRun}
    (unbroken : ∀ run ∈ runs, hasLineFeed run.text = false) :
    (codeLine appearance runs).isBroken = false := by
  have indent : hasLineFeed "  " = false := by decide
  rw [isBroken, plain_codeLine, Text.hasLineFeed_append, indent, Text.hasLineFeed_join,
    Bool.false_or, List.any_map, List.any_eq_false]
  exact fun run member => by simp [unbroken run member]

theorem any_isBroken_codeHeader (info : String) (lines : List String) :
    (codeHeader info lines).any isBroken = (Shown.code (CodeBlock.mk info lines)).breaks := by
  have texts : (codeHeader info lines).any isBroken =
      ((codeHeader info lines).map (·.plain)).any hasLineFeed :=
    List.any_map.symm
  rw [texts, plain_codeHeader, Shown.breaks]
  by_cases many : 1 < lines.length
  · by_cases empty : info = ""
    · simp [empty, hasLineFeed]
    · simp [many, empty]
  · simp [many]

variable {σ : Type u} (renderer : Renderer σ)

/-- **Code is never broken**, only the header above it may be. -/
theorem any_isBroken_codeLines (info : String) (lines : List String) :
    (codeLines renderer info lines).any isBroken =
      (Shown.code (CodeBlock.mk info lines)).breaks := by
  have code : ((highlightCode (Text.join "\n" lines) ((renderer.languages info).map (·.grammar))
      renderer.theme).map (codeLine renderer.appearance)).any isBroken = false := by
    rw [List.any_map, List.any_eq_false]
    intro runs member
    rw [Function.comp_apply, isBroken_codeLine _ (hasLineFeed_of_mem_highlightCode member)]
    exact Bool.false_ne_true
  rw [codeLines, List.any_append, any_isBroken_codeHeader, code, Bool.or_false]

/-- Raw text is cut at its line feeds. -/
theorem any_isBroken_rawLines (text : String) : (rawLines text).any isBroken = false := by
  rw [rawLines, List.any_map, List.any_eq_false]
  intro line member
  have unbroken : '\n' ∉ line := fun inside =>
    absurd (Text.cut_eq_false_of_mem_splitWhere member _ inside) (by decide)
  have subset : dropFinalReturn line ⊆ line := by
    unfold dropFinalReturn
    split
    · rename_i rest reversed
      intro c inside
      rw [← List.mem_reverse, reversed]
      exact List.mem_cons_of_mem _ (List.mem_reverse.mp inside)
    · exact List.Subset.refl _
  show ¬ hasLineFeed _ = true
  rw [LineBuilder.plain_pushText, Text.hasLineFeed_eq_true_iff]
  show '\n' ∉ ("" ++ String.ofList (dropFinalReturn line)).toList
  rw [String.empty_append, String.toList_ofList]
  exact fun inside => unbroken (subset inside)

/-! ## Blocks -/

theorem hasLineFeed_itemMarker (ordered : Bool) (start : UInt64) (index : Nat) :
    hasLineFeed (itemMarker ordered start index) = false := by
  unfold itemMarker
  split
  · have behind : hasLineFeed ". " = false := by decide
    rw [Text.hasLineFeed_append, behind, Bool.or_false, Text.hasLineFeed_eq_false_iff]
    intro inside
    rw [Nat.toString_eq_repr, Nat.toList_repr] at inside
    exact absurd (Nat.isDigit_of_mem_toDigits (by decide) (by decide) inside) (by decide)
  · decide

theorem hasLineFeed_indentOf (marker : String) : hasLineFeed (indentOf marker) = false :=
  Text.hasLineFeed_replicate _ (by decide)

mutual

/-- **A block is broken where one of its leaves breaks it**, at whatever depth. -/
theorem any_isBroken_blockLines : ∀ block : Block,
    (blockLines renderer block).any isBroken = block.shown.any Shown.breaks
  | .paragraph inlines | .heading _ inlines => by
      rw [blockLines, any_isBroken_inlineLines, Block.shown, List.any_map]
      rfl
  | .code info lines => by
      rw [blockLines, any_isBroken_codeLines, Block.shown, List.any_cons, List.any_nil,
        Bool.or_false]
  | .list ordered start items => by
      rw [blockLines, any_isBroken_itemLines items, Block.shown]
  | .quote children => by
      have bar : hasLineFeed quoteBar = false := by decide
      rw [blockLines, any_isBroken_markLines bar bar, any_isBroken_childLines children, Block.shown]
  | .rule => by
      have rule : hasLineFeed ruleText = false := Text.hasLineFeed_replicate 64 (by decide)
      have alike := LineBuilder.alike_empty.pushText ruleText .muted .muted
      rw [blockLines, LineBuilder.any_isBroken_finish alike, LineBuilder.isBroken_pushText, rule]
      rfl
  | .raw text => by
      rw [blockLines, any_isBroken_rawLines]
      rfl

theorem any_isBroken_nodeLines : ∀ node : Node,
    (nodeLines renderer node).any isBroken = node.shown.any Shown.breaks
  | { block, .. } => by
      rw [nodeLines, any_isBroken_blockLines block, Node.shown]

theorem any_isBroken_childLines : ∀ (nodes : List Node) {first : Bool},
    (childLines renderer first nodes).any isBroken = (Node.shownOfAll nodes).any Shown.breaks
  | [], _ => by
      rw [childLines, Node.shownOfAll]
      rfl
  | node :: rest, first => by
      have gap : (if !first && standsApart node.block then [{}] else []).any isBroken = false := by
        split <;> rfl
      rw [childLines, List.any_append, List.any_append, gap, Bool.false_or,
        any_isBroken_nodeLines node, any_isBroken_childLines rest, Node.shownOfAll,
        List.any_append]

theorem any_isBroken_itemLines : ∀ (items : List (List Node)) {ordered : Bool} {start : UInt64}
    {index : Nat}, (itemLines renderer ordered start index items).any isBroken =
      (Node.shownOfItems items).any Shown.breaks
  | [], _, _, _ => by
      rw [itemLines, Node.shownOfItems]
      rfl
  | item :: rest, ordered, start, index => by
      have inner : ∀ lines : List RenderedLine,
          (if lines.isEmpty then [{}] else lines).any isBroken = lines.any isBroken := by
        intro lines
        cases lines <;> rfl
      rw [itemLines, List.any_append,
        any_isBroken_markLines (hasLineFeed_itemMarker _ _ _) (hasLineFeed_indentOf _), inner,
        any_isBroken_childLines item, any_isBroken_itemLines rest, Node.shownOfItems,
        List.any_append]

end

/-! ## Renderings -/

end Renderer

/-- No line feed is on a line of the block, neither in its text nor in one of its segments. -/
def RenderedBlock.IsUnbroken (block : RenderedBlock) : Prop :=
  ∀ line ∈ block.lines,
    '\n' ∉ line.plain.toList ∧ ∀ segment ∈ line.segments, '\n' ∉ segment.text.toList

namespace Renderer

variable {σ : Type u} (renderer : Renderer σ)

/-- It is enough to look at the texts of the lines. -/
theorem isUnbroken_render_iff_plain (node : Node) :
    (renderer.render node).IsUnbroken ↔
      ∀ line ∈ (renderer.render node).lines, line.isBroken = false := by
  have alike := render_alike renderer renderer.theme renderer.appearance node
  refine forall₂_congr fun line member => ?_
  have segments := (List.forall₂_same.mp alike line member).isBroken_eq
  rw [← Text.hasLineFeed_eq_false_iff]
  show line.isBroken = false ∧ _ ↔ _
  refine and_iff_left_of_imp fun unbroken segment among => ?_
  rw [segments, List.any_eq_false] at unbroken
  rw [← Text.hasLineFeed_eq_false_iff, ← Bool.not_eq_true]
  exact unbroken segment among

/-- A node is shown unbroken exactly if none of its leaves breaks. -/
theorem isUnbroken_render_iff (node : Node) :
    (renderer.render node).IsUnbroken ↔ ∀ leaf ∈ node.shown, leaf.breaks = false := by
  have none : ∀ {α : Type} (p : α → Bool) (list : List α),
      (∀ a ∈ list, p a = false) ↔ list.any p = false := by
    intro α p list
    rw [List.any_eq_false]
    simp only [Bool.not_eq_true]
  obtain ⟨id, span, block⟩ := node
  rw [isUnbroken_render_iff_plain, none, none]
  show (blockLines renderer block).any isBroken = false ↔ block.shown.any Shown.breaks = false
  rw [any_isBroken_blockLines]

/-- The printed text has the lines that were rendered, exactly if none of them is broken. -/
theorem lines_plain_render_iff (node : Node) :
    ((renderer.render node).lines ≠ [] → Text.lines (renderer.render node).plain =
      (renderer.render node).lines.map (·.plain)) ↔ (renderer.render node).IsUnbroken := by
  rw [isUnbroken_render_iff_plain]
  constructor
  · intro printed line member
    have texts := printed (List.ne_nil_of_mem member)
    rw [isBroken, Text.hasLineFeed_eq_false_iff]
    refine (Text.areLines_lines (renderer.render node).plain).unbroken _ ?_
    rw [texts]
    exact List.mem_map_of_mem member
  · intro unbroken nonempty
    refine Text.lines_join ⟨by simpa using nonempty, List.forall_mem_map.mpr fun line member => ?_⟩
    exact Text.hasLineFeed_eq_false_iff.mp (unbroken line member)

/-- **When a rendered line is one line.**  No line of a node, wherever it stands, has a line feed
exactly if none of the leaves in the node breaks.  The leaves in a document are those of the forest
that its text is read as.  So the document is shown without broken lines exactly if there is no line
feed in a text, a code span or a footnote name in running text, in the destination or in the trimmed
description of an image, or in the info string of a code block of several lines.  This is also when
the printed text of each block has the very lines that were rendered. -/
theorem lines_unbroken_iff :
    (∀ node : Node,
      (renderer.render node).IsUnbroken ↔ ∀ leaf ∈ node.shown, leaf.breaks = false) ∧
    ∀ (reader : Markdown.Reader) (source : String) (forest : List Markdown.Tree),
      reader.Reads source forest → ∀ firstId : Nat,
      let blocks := (Document.parse reader firstId source).1.blocks.map renderer.render
      let leaves := (Markdown.Tree.shownOf forest).map (Shown.map CodeSource.read)
      ((∀ block ∈ blocks, block.IsUnbroken) ↔ ∀ leaf ∈ leaves, leaf.breaks = false) ∧
      ((∀ block ∈ blocks, block.lines ≠ [] →
        Text.lines block.plain = block.lines.map (·.plain)) ↔
          ∀ leaf ∈ leaves, leaf.breaks = false) := by
  refine ⟨renderer.isUnbroken_render_iff, fun reader source forest reads firstId => ?_⟩
  intro blocks leaves
  have same : (Document.parse reader firstId source).1.blocks.flatMap Node.shown = leaves := by
    rw [← Node.shownOfAll_eq_flatMap, Document.shown_parse reads]
  have unbroken : (∀ block ∈ blocks, block.IsUnbroken) ↔ ∀ leaf ∈ leaves, leaf.breaks = false := by
    rw [List.forall_mem_map, ← same, List.forall_mem_flatMap]
    exact forall₂_congr fun node _ => renderer.isUnbroken_render_iff node
  refine ⟨unbroken, ?_⟩
  rw [← unbroken, List.forall_mem_map, List.forall_mem_map]
  exact forall₂_congr fun node _ => renderer.lines_plain_render_iff node

/-- A hard break in a paragraph ends a line and is on none. -/
theorem lines_unbroken_iff_hardBreak :
    let renderer := Renderer.ofTheme Parsers.builtIn.language ⟨none, []⟩ .dark
    let source := "a\\\nb"
    let forest : List Markdown.Tree :=
      [.node .paragraph ⟨0, 4⟩
        [.leaf (.text "a") ⟨0, 1⟩, .leaf .hardBreak ⟨1, 3⟩, .leaf (.text "b") ⟨3, 4⟩]]
    let blocks := (Document.parse Markdown.eventsOf 0 source).1.blocks.map renderer.render
    Markdown.Reader.Reads Markdown.eventsOf source forest ∧
      (∀ block ∈ blocks, block.IsUnbroken) ∧
      ∀ block ∈ blocks, block.lines ≠ [] → Text.lines block.plain = block.lines.map (·.plain) := by
  intro renderer source forest blocks
  have events : Markdown.eventsOf "a\\\nb" = Markdown.Tree.eventsOf forest := by cbv
  have reads : Markdown.Reader.Reads Markdown.eventsOf source forest := ⟨events, by decide⟩
  obtain ⟨unbroken, printed⟩ := (lines_unbroken_iff renderer).2 _ source forest reads 0
  have leaves : ∀ leaf ∈ (Markdown.Tree.shownOf forest).map (Shown.map CodeSource.read),
      leaf.breaks = false := by decide
  exact ⟨reads, unbroken.mpr leaves, printed.mpr leaves⟩

end Renderer

theorem Document.parse_image_over_lines (firstId : Nat) :
    Document.parse Markdown.eventsOf firstId "![a\\\nb](u)" =
      (⟨"![a\\\nb](u)",
        [⟨⟨firstId + 6⟩, ⟨0, 10⟩, .paragraph [.image "u" "a\nb"]⟩]⟩, firstId + 7) := by
  have events : Markdown.eventsOf "![a\\\nb](u)" =
      [(.opening .paragraph, ⟨0, 10⟩), (.opening (.image "u"), ⟨0, 10⟩),
        (.leaf (.text "a"), ⟨2, 3⟩), (.leaf .hardBreak, ⟨3, 5⟩), (.leaf (.text "b"), ⟨5, 6⟩),
        (.closing, ⟨0, 10⟩), (.closing, ⟨0, 10⟩)] := by cbv
  rw [Document.parse, events]
  rfl

/-- **Not every rendered line is one line.**  A hard break in the description of an image becomes a
line feed, and the description is put on one line. -/
theorem Renderer.lines_broken_by_image :
    let renderer := Renderer.ofTheme Parsers.builtIn.language ⟨none, []⟩ .dark
    let blocks := (Document.parse Markdown.eventsOf 0 "![a\\\nb](u)").1.blocks.map renderer.render
    blocks.map (·.lines.map (·.plain)) = [["[image: a\nb] (u)"]] ∧
      ¬ ∀ block ∈ blocks, ∀ line ∈ block.lines,
        '\n' ∉ line.plain.toList ∧ ∀ segment ∈ line.segments, '\n' ∉ segment.text.toList := by
  intro renderer blocks
  have plain : blocks.map (·.lines.map (·.plain)) = [["[image: a\nb] (u)"]] := by
    show List.map _ (List.map _ (Document.parse Markdown.eventsOf 0 "![a\\\nb](u)").1.blocks) = _
    rw [Document.parse_image_over_lines]
    rfl
  refine ⟨plain, fun unbroken => ?_⟩
  obtain ⟨block, more, same, lines, -⟩ := List.map_eq_cons_iff.mp plain
  obtain ⟨line, rest, these, text, -⟩ := List.map_eq_cons_iff.mp lines
  have member : block ∈ blocks := same ▸ List.mem_cons_self
  have inside : line ∈ block.lines := these ▸ List.mem_cons_self
  have without := (unbroken block member line inside).1
  rw [text] at without
  exact without (by decide)

end MarkdownPager
