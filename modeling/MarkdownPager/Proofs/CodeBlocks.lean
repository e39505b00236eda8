import MarkdownPager.Pager.BuiltIn
import MarkdownPager.Proofs.Highlight
import MarkdownPager.Proofs.Shape
import MarkdownPager.Proofs.Shown

/-!
# Code blocks are shown as they were written

The lines of a code block are cut out of a text three times: the reader of events cuts the content
of the block, the renderer joins the lines for the highlighter, which cuts the code again and then
each line into runs.  Cutting and joining undo each other as long as there is a line and no line has
a line feed in it, and this is what reading makes of any content.

* `Markdown.CodeSource.ReadAs` — what a code block keeps of its content: all but one final line
  feed.
* `Renderer.plain_codeLines` — each line is shown as it is, behind two blanks, with the info string
  above if there are several lines.
* `Renderer.code_blocks_lossless` — both, for every code block of every document.
-/

namespace MarkdownPager

universe u

open Markdown (CodeSource)

/-! ## From content to lines -/

/-- A code block that is read from another: the lines with line feeds between them are the content,
up to a line feed at its end. -/
structure Markdown.CodeSource.ReadAs (source : CodeSource) (block : CodeBlock) : Prop where
  info : block.info = Text.trim (source.info.getD "")
  areLines : Text.AreLines block.lines
  content :
    source.content.toList.getLast? ≠ some '\n' ∧ "\n".intercalate block.lines = source.content ∨
      "\n".intercalate block.lines ++ "\n" = source.content

theorem Markdown.CodeSource.readAs_read (source : CodeSource) : source.ReadAs source.read where
  info := rfl
  areLines := Text.areLines_lines _
  content := by
    have joined : "\n".intercalate source.read.lines = Text.dropFinalNewline source.content :=
      Text.intercalate_lines _
    rw [joined]
    exact Text.dropFinalNewline_cases source.content

/-- Code blocks that are read one by one. -/
theorem Markdown.CodeSource.readAs_map_read (sources : List CodeSource) :
    List.Forall₂ CodeSource.ReadAs sources (sources.map CodeSource.read) :=
  List.forall₂_map_right_iff.mpr
    (List.forall₂_same.mpr fun source _ => CodeSource.readAs_read source)

/-! ## From lines to what is shown -/

/-- Adding text adds it to the text of the current line. -/
theorem LineBuilder.plain_pushText (builder : LineBuilder) (text : String) (style : TextStyle) :
    (builder.pushText text style).current.plain = builder.current.plain ++ text := by
  unfold pushText
  split
  · rename_i empty
    rw [empty, String.append_empty]
  · rfl

/-- Texts that are added one after the other make one text. -/
theorem LineBuilder.plain_foldl_pushText {α : Type} (text : α → String) (style : α → TextStyle)
    (pieces : List α) : ∀ builder : LineBuilder,
    (pieces.foldl (fun lines piece => lines.pushText (text piece) (style piece))
      builder).current.plain = builder.current.plain ++ String.join (pieces.map text) := by
  induction pieces with
  | nil => exact fun builder => String.append_empty.symm
  | cons piece rest ih =>
      intro builder
      rw [List.foldl_cons, ih, plain_pushText, List.map_cons, String.join_cons,
        String.append_assoc]

/-- The languages that are built in cut lines between characters. -/
theorem Parsers.onBoundaries_builtIn :
    ∀ info, ∀ parser ∈ builtIn.language info, parser.OnBoundaries := by
  intro info parser named
  obtain ⟨language, -, rfl⟩ := Option.map_eq_some_iff.mp named
  exact Language.parser_onBoundaries language

namespace Renderer

/-- The text of a line of code is that of its runs, behind two blanks. -/
theorem plain_codeLine (appearance : Appearance) (runs : List StyledRun) :
    (codeLine appearance runs).plain = "  " ++ String.join (runs.map (·.text)) := by
  rw [codeLine, LineBuilder.plain_foldl_pushText, LineBuilder.plain_pushText]
  rfl

theorem plain_codeHeader (info : String) (lines : List String) :
    (codeHeader info lines).map (·.plain) =
      if 1 < lines.length ∧ info ≠ "" then [info] else [] := by
  unfold codeHeader
  by_cases headed : 1 < lines.length ∧ info ≠ ""
  · rw [if_pos headed, if_pos (by simpa using headed), List.map_singleton,
      LineBuilder.plain_pushText]
    exact congrArg ([·]) String.empty_append
  · rw [if_neg headed, if_neg (by simpa using headed), List.map_nil]

/-- **A code block is shown line by line**, whatever language its info string names. -/
theorem plain_codeLines {σ : Type u} (renderer : Renderer σ) (info : String)
    (sound : ∀ parser ∈ renderer.languages info, parser.OnBoundaries) {lines : List String}
    (areLines : Text.AreLines lines) :
    (codeLines renderer info lines).map (·.plain) =
      (if 1 < lines.length ∧ info ≠ "" then [info] else []) ++ lines.map ("  " ++ ·) := by
  have code := runTexts_highlightCode (Text.join "\n" lines) renderer.theme sound
  rw [Text.lines_join areLines] at code
  rw [codeLines, List.map_append, plain_codeHeader]
  generalize highlightCode _ _ _ = entries at code
  congr 1
  rw [← code, runTexts, List.map_map, List.map_map]
  exact List.map_congr_left fun runs _ => plain_codeLine renderer.appearance runs

/-! ## Every code block -/

/-- **Code blocks lose nothing.**  Whatever the languages do, as long as they cut lines between
characters, a code block is shown as its lines, each behind two blanks, below its info string if it
has one and more than one line.  The code blocks that are read from events, at every depth, have at
least one line each, no line feed in a line, and all of the content but one final line feed.  In
particular this is so in every document whose text is read as a shaped forest. -/
theorem code_blocks_lossless {σ : Type u} (renderer : Renderer σ)
    (sound : ∀ info, ∀ parser ∈ renderer.languages info, parser.OnBoundaries) :
    (∀ (id : NodeId) (span : Span) (info : String) (lines : List String), Text.AreLines lines →
      (renderer.render ⟨id, span, .code info lines⟩).lines.map (·.plain) =
        (if 1 < lines.length ∧ info ≠ "" then [info] else []) ++ lines.map ("  " ++ ·)) ∧
    (∀ (context : EventContext) (forest : List Markdown.Tree),
      Markdown.Tree.areShaped forest = true →
      List.Forall₂ CodeSource.ReadAs (Markdown.Tree.codeSources forest)
        (Node.codeBlocks (Node.ofEvents context (Markdown.Tree.eventsOf forest)))) ∧
    ∀ (reader : Markdown.Reader) (source : String) (forest : List Markdown.Tree),
      reader.Reads source forest → ∀ firstId : Nat,
        List.Forall₂ CodeSource.ReadAs (Markdown.Tree.codeSources forest)
          (Node.codeBlocks (Document.parse reader firstId source).1.blocks) := by
  refine ⟨fun id span info lines areLines => ?_, fun context forest shaped => ?_,
    fun reader source forest reads firstId => ?_⟩
  · exact plain_codeLines renderer info (sound info) areLines
  · rw [OfEvents.ofEvents_eventsOf context shaped, Markdown.Tree.codeBlocks_nodesOf]
    exact CodeSource.readAs_map_read _
  · rw [Document.blocks_parse reads, Markdown.Tree.codeBlocks_nodesOf]
    exact CodeSource.readAs_map_read _

/-- JSON that breaks off in a string, and a code block in a quote that ends in an empty line. -/
theorem code_blocks_lossless_json :
    let renderer := Renderer.ofTheme Parsers.builtIn.language ⟨none, []⟩ .dark
    let lines := ["[\"é", "", "]"]
    let forest : List Markdown.Tree :=
      [.node .quote ⟨0, 24⟩ [.node (.code (some " json ")) ⟨2, 24⟩
        [.leaf (.text "[\n") ⟨14, 16⟩, .leaf (.text "\n") ⟨18, 19⟩]]]
    let source := "> ``` json \n> [\n> \n> ```"
    let context := EventContext.ofSource 0 source
    (∀ info, ∀ parser ∈ renderer.languages info, parser.OnBoundaries) ∧ Text.AreLines lines ∧
      (renderer.render ⟨⟨0⟩, ⟨0, 0⟩, .code "json" lines⟩).lines.map (·.plain) =
        ["json", "  [\"é", "  ", "  ]"] ∧
      Markdown.Tree.areShaped forest = true ∧
      List.Forall₂ CodeSource.ReadAs [⟨some " json ", "[\n\n"⟩]
        (Node.codeBlocks (Node.ofEvents context (Markdown.Tree.eventsOf forest))) ∧
      Markdown.Reader.Reads Parsers.builtIn.markdown source (Markdown.treesOfText source) ∧
      List.Forall₂ CodeSource.ReadAs (Markdown.Tree.codeSources (Markdown.treesOfText source))
        (Node.codeBlocks (Document.parse Parsers.builtIn.markdown 0 source).1.blocks) := by
  intro renderer lines forest source context
  have sound := Parsers.onBoundaries_builtIn
  obtain ⟨shown, read, parsed⟩ := code_blocks_lossless renderer sound
  have areLines : Text.AreLines lines := ⟨by decide, by decide⟩
  have shaped : Markdown.Tree.areShaped forest = true := by decide
  have sources : Markdown.Tree.codeSources forest = [⟨some " json ", "[\n\n"⟩] := rfl
  have reads := Markdown.reads_eventsOf source
  refine ⟨sound, areLines, (shown ⟨0⟩ ⟨0, 0⟩ "json" lines areLines).trans rfl, shaped, ?_, reads,
    parsed _ source _ reads 0⟩
  rw [← sources]
  exact read context forest shaped

end Renderer

end MarkdownPager
