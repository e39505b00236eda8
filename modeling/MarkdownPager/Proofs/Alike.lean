import Mathlib.Data.List.Forall2
import MarkdownPager.Proofs.Surroundings

/-!
# Lines made by the same steps

A rendered line comes about step by step.  It begins empty; text is added to it, a link is noted on
it, a marker is put in front of it.  Each step does three things at once, to the segments, to the
text without styles and to the links, and only the segments know of styles.

Two lines are alike (`RenderedLine.Alike`) if the same steps make both, each in styles of its own.
The theme and the appearance of a renderer choose styles and nothing else, so a node has lines that
are alike under all of them (`Renderer.render_alike`).  What the steps do to a line is then all there
is to say about it:

* `Renderer.plain_eq_join_texts` — the text of a line is the text of its segments, which is the
  case of a renderer beside itself.
* `Renderer.render_restyled` — another theme or appearance changes styles only.
-/

namespace MarkdownPager

universe u

/-- The texts of the segments of a line. -/
def RenderedLine.texts (line : RenderedLine) : List String := line.segments.map (·.text)

/-- A line with text added to it. -/
def RenderedLine.withText (line : RenderedLine) (text : String) (style : TextStyle) :
    RenderedLine :=
  { line with plain := line.plain ++ text, segments := line.segments ++ [⟨text, style⟩] }

/-- A line with a link noted on it. -/
def RenderedLine.withLink (line : RenderedLine) (link : LinkTarget) : RenderedLine :=
  { line with links := line.links ++ [link] }

/-- **The same steps make both lines**, each of them in its own styles. -/
inductive RenderedLine.Alike : RenderedLine → RenderedLine → Prop where
  | empty : Alike {} {}
  | text {left right : RenderedLine} (alike : Alike left right) (text : String)
      (style style' : TextStyle) : Alike (left.withText text style) (right.withText text style')
  | link {left right : RenderedLine} (alike : Alike left right) (link : LinkTarget) :
      Alike (left.withLink link) (right.withLink link)
  | marker {left right : RenderedLine} (alike : Alike left right) (marker : String)
      (style style' : TextStyle) : Alike (left.marked marker style) (right.marked marker style')

/-- Lines of equal number that are alike one by one. -/
abbrev LinesAlike : List RenderedLine → List RenderedLine → Prop :=
  List.Forall₂ RenderedLine.Alike

/-! ## What the steps do -/

namespace RenderedLine

variable {left right : RenderedLine}

theorem texts_withText (line : RenderedLine) (text : String) (style : TextStyle) :
    (line.withText text style).texts = line.texts ++ [text] :=
  List.map_append

theorem texts_marked (line : RenderedLine) (marker : String) (style : TextStyle) :
    (line.marked marker style).texts = marker :: line.texts :=
  rfl

theorem Alike.texts_eq (alike : left.Alike right) : left.texts = right.texts := by
  induction alike with
  | empty => rfl
  | text _ text style style' ih => rw [texts_withText, texts_withText, ih]
  | link _ _ ih => exact ih
  | marker _ marker style style' ih => rw [texts_marked, texts_marked, ih]

theorem Alike.plain_eq (alike : left.Alike right) : left.plain = right.plain := by
  induction alike with
  | empty => rfl
  | text _ text _ _ ih => exact congrArg (· ++ text) ih
  | link _ _ ih => exact ih
  | marker _ marker _ _ ih => exact congrArg (marker ++ ·) ih

theorem Alike.links_eq (alike : left.Alike right) : left.links = right.links := by
  induction alike with
  | empty => rfl
  | text _ _ _ _ ih => exact ih
  | link _ link ih => exact congrArg (· ++ [link]) ih
  | marker _ _ _ _ ih => exact ih

/-- **Each step adds the same text to both representations of a line.** -/
theorem Alike.plain_eq_join (alike : left.Alike right) : left.plain = String.join left.texts := by
  induction alike with
  | empty => rfl
  | text _ text style _ ih =>
      rw [texts_withText, String.join_append, ← ih, String.join_cons, String.join_nil,
        String.append_empty]
      rfl
  | link _ _ ih => exact ih
  | marker _ marker style _ ih =>
      rw [texts_marked, String.join_cons, ← ih]
      rfl

/-- Lines that are alike are empty together. -/
theorem Alike.isEmpty_eq (alike : left.Alike right) :
    (left.segments.isEmpty && left.links.isEmpty) =
      (right.segments.isEmpty && right.links.isEmpty) := by
  have texts : left.segments.isEmpty = right.segments.isEmpty := by
    have same := congrArg List.isEmpty alike.texts_eq
    rwa [texts, texts, List.isEmpty_map, List.isEmpty_map] at same
  rw [texts, alike.links_eq]

end RenderedLine

/-! ## Lines in the making -/

namespace LineBuilder

/-- The finished lines are alike, and so are the current ones. -/
structure Alike (left right : LineBuilder) : Prop where
  lines : LinesAlike left.lines right.lines
  current : left.current.Alike right.current

variable {left right : LineBuilder}

theorem alike_empty : Alike {} {} := ⟨.nil, .empty⟩

theorem Alike.pushText (alike : left.Alike right) (text : String) (style style' : TextStyle) :
    (left.pushText text style).Alike (right.pushText text style') := by
  unfold LineBuilder.pushText
  split
  · exact alike
  · exact ⟨alike.lines, alike.current.text text style style'⟩

theorem Alike.pushLink (alike : left.Alike right) (link : LinkTarget) :
    (left.pushLink link).Alike (right.pushLink link) :=
  ⟨alike.lines, alike.current.link link⟩

theorem Alike.breakLine (alike : left.Alike right) : left.breakLine.Alike right.breakLine :=
  ⟨List.rel_append alike.lines (.cons alike.current .nil), .empty⟩

/-- The last line is kept in both or dropped in both. -/
theorem Alike.finish (alike : left.Alike right) : LinesAlike left.finish right.finish := by
  unfold LineBuilder.finish
  rw [alike.current.isEmpty_eq]
  split
  · exact alike.lines
  · exact List.rel_append alike.lines (.cons alike.current .nil)

end LineBuilder

/-- What does not tell lines that are alike apart is the same for all of them. -/
theorem LinesAlike.map_eq {α : Type} {view : RenderedLine → α} {left right : List RenderedLine}
    (alike : LinesAlike left right)
    (same : ∀ {line line' : RenderedLine}, line.Alike line' → view line = view line') :
    left.map view = right.map view := by
  induction alike with
  | nil => rfl
  | cons head _ ih => rw [List.map_cons, List.map_cons, same head, ih]

/-- Markers of equal texts are put in front of equally many lines. -/
theorem LinesAlike.markLines {left right : List RenderedLine} (alike : LinesAlike left right)
    (first rest : String) (style style' : TextStyle) :
    LinesAlike (markLines left first rest style) (markLines right first rest style') := by
  cases alike with
  | nil => exact .nil
  | cons head tail =>
      refine .cons (head.marker first style style') ?_
      rw [List.forall₂_map_left_iff, List.forall₂_map_right_iff]
      exact tail.imp fun _ _ alike => alike.marker rest style style'

namespace Renderer

/-! ## Running text -/

section Inlines

variable (appearance appearance' : Appearance) (base : TextStyle)

mutual

/-- The appearance chooses the style of code and nothing else. -/
theorem addInline_alike : ∀ (inline : Inline) (around : Surroundings) {left right : LineBuilder},
    left.Alike right →
    (addInline appearance base around inline left).Alike
      (addInline appearance' base around inline right)
  | .text _, _, _, _, alike | .code _, _, _, _, alike | .image .., _, _, _, alike
  | .softBreak, _, _, _, alike | .taskMarker _, _, _, _, alike
  | .footnoteRef _, _, _, _, alike => by
      rw [addInline, addInline]
      exact alike.pushText ..
  | .html _, _, _, _, alike => by
      rw [addInline, addInline]
      exact alike
  | .hardBreak, _, _, _, alike => by
      rw [addInline, addInline]
      exact alike.breakLine
  | .emphasis children, _, _, _, alike | .strong children, _, _, _, alike
  | .strikethrough children, _, _, _, alike => by
      rw [addInline, addInline]
      exact addInlines_alike children _ alike
  | .link url children, _, _, _, alike => by
      rw [addInline, addInline]
      exact addInlines_alike children _ (alike.pushLink _)

theorem addInlines_alike : ∀ (inlines : List Inline) (around : Surroundings)
    {left right : LineBuilder}, left.Alike right →
    (addInlines appearance base around inlines left).Alike
      (addInlines appearance' base around inlines right)
  | [], _, _, _, alike => by
      rw [addInlines, addInlines]
      exact alike
  | inline :: rest, around, _, _, alike => by
      rw [addInlines, addInlines]
      exact addInlines_alike rest around (addInline_alike inline around alike)

end

theorem inlineLines_alike (inlines : List Inline) :
    LinesAlike (inlineLines appearance base inlines) (inlineLines appearance' base inlines) := by
  rw [inlineLines_eq, inlineLines_eq]
  exact (addInlines_alike appearance appearance' base inlines {} LineBuilder.alike_empty).finish

end Inlines

/-! ## Code and raw text -/

/-- Highlighting cuts the lines of code in the same places under all rules. -/
theorem highlightCode_restyled {σ : Type u} (code : String) (grammar : Option (Grammar σ))
    (rules rules' : ThemeRules) :
    List.Forall₂ (List.Forall₂ fun run run' => run.text = run'.text)
      (highlightCode code grammar rules) (highlightCode code grammar rules') := by
  have tokens : ∀ (line : String) (tokens : List Token),
      List.Forall₂ (fun run run' : StyledRun => run.text = run'.text)
        (styleTokens rules line tokens) (styleTokens rules' line tokens) := by
    intro line tokens
    unfold styleTokens
    rw [List.forall₂_map_left_iff, List.forall₂_map_right_iff, List.forall₂_same]
    exact fun _ _ => rfl
  unfold highlightCode
  rw [List.forall₂_map_left_iff, List.forall₂_map_right_iff, List.forall₂_same]
  exact fun pair _ => tokens pair.1 pair.2

/-- Runs of equal texts make lines that are alike. -/
theorem codeLine_alike (appearance appearance' : Appearance) {runs runs' : List StyledRun}
    (same : List.Forall₂ (fun run run' => run.text = run'.text) runs runs') :
    (codeLine appearance runs).Alike (codeLine appearance' runs') := by
  have start := LineBuilder.alike_empty.pushText "  " .muted .muted
  refine LineBuilder.Alike.current (List.rel_foldl ?_ start same)
  intro left right alike run run' text
  show (left.pushText run.text _).Alike (right.pushText run'.text _)
  rw [text]
  exact alike.pushText ..

/-- A renderer for the same languages with another theme and in another appearance.  Any two
renderers for the same languages differ like that. -/
def restyled {σ : Type u} (renderer : Renderer σ) (theme : ThemeRules) (appearance : Appearance) :
    Renderer σ :=
  { renderer with theme, appearance }

variable {σ : Type u} (renderer : Renderer σ) (theme : ThemeRules) (appearance : Appearance)

theorem codeLines_alike (info : String) (lines : List String) :
    LinesAlike (codeLines renderer info lines)
      (codeLines (renderer.restyled theme appearance) info lines) := by
  have header : LinesAlike (codeHeader info lines) (codeHeader info lines) := by
    unfold codeHeader
    split
    · exact .cons (LineBuilder.alike_empty.pushText ..).current .nil
    · exact .nil
  unfold codeLines
  refine List.rel_append header ?_
  exact List.rel_map (fun _ _ same => codeLine_alike _ _ same) (highlightCode_restyled ..)

theorem rawLines_alike (text : String) : LinesAlike (rawLines text) (rawLines text) := by
  refine List.forall₂_same.mpr fun line member => ?_
  obtain ⟨cs, -, rfl⟩ := List.mem_map.mp member
  exact (LineBuilder.alike_empty.pushText ..).current

/-! ## Blocks -/

mutual

theorem blockLines_alike : ∀ block : Block,
    LinesAlike (blockLines renderer block) (blockLines (renderer.restyled theme appearance) block)
  | .paragraph inlines | .heading _ inlines => by
      rw [blockLines, blockLines]
      exact inlineLines_alike ..
  | .code info lines => by
      rw [blockLines, blockLines]
      exact codeLines_alike renderer theme appearance info lines
  | .list ordered start items => by
      rw [blockLines, blockLines]
      exact itemLines_alike ordered start 0 items
  | .quote children => by
      rw [blockLines, blockLines]
      exact (childLines_alike true children).markLines ..
  | .rule => by
      rw [blockLines, blockLines]
      exact (LineBuilder.alike_empty.pushText ..).finish
  | .raw text => by
      rw [blockLines, blockLines]
      exact rawLines_alike text

theorem nodeLines_alike : ∀ node : Node,
    LinesAlike (nodeLines renderer node) (nodeLines (renderer.restyled theme appearance) node)
  | { block, .. } => by
      rw [nodeLines, nodeLines]
      exact blockLines_alike block

theorem childLines_alike : ∀ (first : Bool) (nodes : List Node),
    LinesAlike (childLines renderer first nodes)
      (childLines (renderer.restyled theme appearance) first nodes)
  | _, [] => by
      rw [childLines, childLines]
      exact .nil
  | first, node :: rest => by
      have gap : LinesAlike (if !first && standsApart node.block then [{}] else [])
          (if !first && standsApart node.block then [{}] else []) := by
        split
        · exact .cons .empty .nil
        · exact .nil
      rw [childLines, childLines]
      exact List.rel_append (List.rel_append gap (nodeLines_alike node))
        (childLines_alike false rest)

theorem itemLines_alike : ∀ (ordered : Bool) (start : UInt64) (index : Nat)
    (items : List (List Node)),
    LinesAlike (itemLines renderer ordered start index items)
      (itemLines (renderer.restyled theme appearance) ordered start index items)
  | _, _, _, [] => by
      rw [itemLines, itemLines]
      exact .nil
  | ordered, start, index, item :: rest => by
      -- An item without lines gets an empty one, whoever renders it.
      have inner : ∀ {lines lines' : List RenderedLine}, LinesAlike lines lines' →
          LinesAlike (if lines.isEmpty then [{}] else lines)
            (if lines'.isEmpty then [{}] else lines') := by
        intro lines lines' alike
        cases alike with
        | nil => exact .cons .empty .nil
        | cons head tail => exact .cons head tail
      rw [itemLines, itemLines]
      exact List.rel_append ((inner (childLines_alike true item)).markLines ..)
        (itemLines_alike ordered start (index + 1) rest)

end

/-- **A node is rendered alike in all styles.** -/
theorem render_alike (node : Node) :
    LinesAlike (renderer.render node).lines
      ((renderer.restyled theme appearance).render node).lines :=
  blockLines_alike renderer theme appearance node.block

/-! ## The text of a line, and what a theme cannot change -/

/-- **The text of a line is the text of its segments**, line by line. -/
theorem plain_eq_join_texts (node : Node) :
    (renderer.render node).lines.map (·.plain) =
      (renderer.render node).lines.map fun line => String.join (line.segments.map (·.text)) := by
  -- In its own styles a renderer makes the same lines, so each of them is like itself.
  have alike : LinesAlike (renderer.render node).lines (renderer.render node).lines :=
    render_alike renderer renderer.theme renderer.appearance node
  refine List.map_congr_left fun line member => ?_
  exact (List.forall₂_same.mp alike line member).plain_eq_join

/-- **Another theme or appearance changes styles only.**  There are as many lines, and each line
keeps its text, the texts of its segments and its links. -/
theorem render_restyled (node : Node) :
    let before := (renderer.render node).lines
    let after := ((renderer.restyled theme appearance).render node).lines
    after.length = before.length ∧ after.map (·.plain) = before.map (·.plain) ∧
      after.map (·.segments.map (·.text)) = before.map (·.segments.map (·.text)) ∧
      after.map (·.links) = before.map (·.links) := by
  intro before after
  have alike : LinesAlike before after := render_alike renderer theme appearance node
  refine ⟨alike.length_eq.symm, ?_, ?_, ?_⟩
  · exact (alike.map_eq fun same => same.plain_eq).symm
  · exact (alike.map_eq fun same => same.texts_eq).symm
  · exact (alike.map_eq fun same => same.links_eq).symm

end Renderer

end MarkdownPager
