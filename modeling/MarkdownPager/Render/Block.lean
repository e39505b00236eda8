import MarkdownPager.Document.Block
import MarkdownPager.Grammar.Language
import MarkdownPager.Highlight.Code
import MarkdownPager.Render.Line

/-!
# Rendering blocks

A renderer turns the block of a node into lines.  It knows the languages of code blocks, the rules
of a theme and the appearance; spans and identities play no part.

Running text is styled by what surrounds it: emphasis, strong emphasis, strikethrough and links,
however often nested.  How many of them are open is counted on the way.

Lists put a marker in front of the first line of each item and indent the others as far; quotes put
a bar in front of every line.
-/

namespace MarkdownPager

universe u

/-- What rendering depends on besides the block. -/
structure Renderer (σ : Type u) where
  /-- The language that an info string names. -/
  languages : String → Option (ScopeParser σ)
  theme : ThemeRules
  appearance : Appearance

namespace Renderer

/-! ## Running text -/

/-- The colour of links. -/
def linkColor : Rgb := ⟨0x00, 0x78, 0xd4⟩

/-- How many of each kind of markup are open where rendering has come to. -/
structure InlineState where
  emphasis : Nat := 0
  strong : Nat := 0
  strikethrough : Nat := 0
  linkDepth : Nat := 0
  deriving DecidableEq, Repr

/-- The style of text while markup is open, starting from a base style. -/
def InlineState.style (state : InlineState) (base : TextStyle) : TextStyle :=
  let style := if 0 < state.emphasis then { base with italic := true } else base
  let style := if 0 < state.strong then { style with bold := true } else style
  let style := if 0 < state.strikethrough then { style with crossedOut := true } else style
  if 0 < state.linkDepth then
    { style with foreground := some (.rgb linkColor), underlined := true }
  else style

/-- The style of code in running text. -/
def inlineCodeStyle : Appearance → TextStyle
  | .light =>
    { foreground := some (.rgb ⟨0x00, 0x00, 0x00⟩), background := some (.rgb ⟨0xf0, 0xf0, 0xf0⟩) }
  | .dark =>
    { foreground := some (.rgb ⟨0xf0, 0xf0, 0xf0⟩), background := some (.rgb ⟨0x31, 0x31, 0x31⟩) }

/-- What stands for an image. -/
def imageText (url alt : String) : String :=
  let alt := Text.trim alt
  "[image: " ++ (if alt = "" then "image" else alt) ++ "] (" ++ url ++ ")"

mutual

/-- Adds an inline to the lines.  What the inline opens is counted while its children are added, and
no longer counted behind them. -/
def pushInline (appearance : Appearance) (base : TextStyle) :
    Inline → LineBuilder → InlineState → LineBuilder × InlineState
  | .text t, lines, state => (lines.pushText t (state.style base), state)
  | .code t, lines, state => (lines.pushText t (inlineCodeStyle appearance), state)
  | .html _, lines, state => (lines, state)
  | .emphasis children, lines, state =>
    let (lines, state) := pushInlines appearance base children lines
      { state with emphasis := state.emphasis + 1 }
    (lines, { state with emphasis := state.emphasis - 1 })
  | .strong children, lines, state =>
    let (lines, state) := pushInlines appearance base children lines
      { state with strong := state.strong + 1 }
    (lines, { state with strong := state.strong - 1 })
  | .strikethrough children, lines, state =>
    let (lines, state) := pushInlines appearance base children lines
      { state with strikethrough := state.strikethrough + 1 }
    (lines, { state with strikethrough := state.strikethrough - 1 })
  | .link url children, lines, state =>
    let lines := lines.pushLink ⟨Inline.plainText children, url⟩
    let (lines, state) := pushInlines appearance base children lines
      { state with linkDepth := state.linkDepth + 1 }
    (lines, { state with linkDepth := state.linkDepth - 1 })
  | .image url alt, lines, state =>
    (lines.pushText (imageText url alt) { foreground := some .lightBlue }, state)
  | .softBreak, lines, state => (lines.pushText " " (state.style base), state)
  | .hardBreak, lines, state => (lines.breakLine, state)
  | .taskMarker done, lines, state => (lines.pushText (Inline.taskBox done) .muted, state)
  | .footnoteRef name, lines, state => (lines.pushText (Inline.footnoteMark name) .muted, state)

/-- Adds inlines to the lines, one after the other. -/
def pushInlines (appearance : Appearance) (base : TextStyle) :
    List Inline → LineBuilder → InlineState → LineBuilder × InlineState
  | [], lines, state => (lines, state)
  | inline :: rest, lines, state =>
    let (lines, state) := pushInline appearance base inline lines state
    pushInlines appearance base rest lines state

end

/-- The lines of running text. -/
def inlineLines (appearance : Appearance) (base : TextStyle) (inlines : List Inline) :
    List RenderedLine :=
  (pushInlines appearance base inlines {} {}).1.finish

/-- The style of a heading, by its level. -/
def headingStyle (level : Nat) : TextStyle where
  foreground := match level with
    | 1 => some .yellow
    | 2 => some .lightMagenta
    | _ => some .lightCyan
  bold := true

/-! ## Code, rules and raw text -/

/-- The text of a rule. -/
def ruleText : String := .ofList (List.replicate 64 '─')

/-- One line of code. -/
def codeLine (appearance : Appearance) (runs : List StyledRun) : RenderedLine :=
  (runs.foldl
    (fun lines run => lines.pushText run.text (.ofConcrete (run.style.toConcrete appearance)))
    (LineBuilder.pushText {} "  " .muted)).current

/-- The header of a code block: its info string, unless that is empty or there is only one line
of code. -/
def codeHeader (info : String) (lines : List String) : List RenderedLine :=
  if 1 < lines.length && info ≠ "" then
    [(LineBuilder.pushText {} info { TextStyle.muted with italic := true }).current]
  else []

variable {σ : Type u}

/-- The lines of a code block. -/
def codeLines (renderer : Renderer σ) (info : String) (lines : List String) :
    List RenderedLine :=
  let grammar := (renderer.languages info).map (·.grammar)
  codeHeader info lines ++
    (highlightCode (Text.join "\n" lines) grammar renderer.theme).map
      (codeLine renderer.appearance)

/-- The text without one final carriage return. -/
def dropFinalReturn (cs : List Char) : List Char :=
  match cs.reverse with
  | '\r' :: rest => rest.reverse
  | _ => cs

/-- The lines of raw text. -/
def rawLines (text : String) : List RenderedLine :=
  (Text.linesOf text.toList).map fun line =>
    (LineBuilder.pushText {} (.ofList (dropFinalReturn line)) {}).current

/-! ## Blocks -/

/-- The marker of a list item, by its index.  Numbers stop at the largest one of 64 bits. -/
def itemMarker (ordered : Bool) (start : UInt64) (index : Nat) : String :=
  if ordered then toString (min (start.toNat + index) (UInt64.size - 1)) ++ ". " else "  • "

/-- As many blanks as a marker has characters. -/
def indentOf (marker : String) : String :=
  .ofList (List.replicate marker.toList.length ' ')

/-- The bar in front of the lines of a quote. -/
def quoteBar : String := "│ "

/-- Whether a child block gets an empty line before it when it is not the first. -/
def standsApart : Block → Bool
  | .list .. => false
  | _ => true

mutual

/-- The lines of a block. -/
def blockLines (renderer : Renderer σ) : Block → List RenderedLine
  | .paragraph inlines => inlineLines renderer.appearance {} inlines
  | .heading level inlines => inlineLines renderer.appearance (headingStyle level) inlines
  | .code info lines => codeLines renderer info lines
  | .list ordered start items => itemLines renderer ordered start 0 items
  | .quote children => markLines (childLines renderer true children) quoteBar quoteBar .muted
  | .rule => (LineBuilder.pushText {} ruleText .muted).finish
  | .raw text => rawLines text

/-- The lines of a node. -/
def nodeLines (renderer : Renderer σ) : Node → List RenderedLine
  | { block, .. } => blockLines renderer block

/-- The lines of child nodes; the flag says whether the first of them comes first in its
container. -/
def childLines (renderer : Renderer σ) (first : Bool) : List Node → List RenderedLine
  | [] => []
  | node :: rest =>
    (if !first && standsApart node.block then [{}] else []) ++ nodeLines renderer node ++
      childLines renderer false rest

/-- The lines of list items from the one with the given index on. -/
def itemLines (renderer : Renderer σ) (ordered : Bool) (start : UInt64) (index : Nat) :
    List (List Node) → List RenderedLine
  | [] => []
  | item :: rest =>
    let marker := itemMarker ordered start index
    let inner := childLines renderer true item
    markLines (if inner.isEmpty then [{}] else inner) marker (indentOf marker) { bold := true } ++
      itemLines renderer ordered start (index + 1) rest

end

/-- A node as it is shown. -/
def render (renderer : Renderer σ) (node : Node) : RenderedBlock :=
  ⟨blockLines renderer node.block⟩

end Renderer

end MarkdownPager
