import MarkdownPager.Color.Basic
import MarkdownPager.Highlight.Style

/-!
# Rendered lines

What a block is shown as: lines of styled segments.  A line keeps its text without styles beside
the segments, and the links that begin on it.

`LineBuilder` makes lines from left to right.  Empty texts leave no segment, and a line without
segments and links is kept only where a line break asks for it.
-/

namespace MarkdownPager

/-- A colour of the terminal: one of its own, or any. -/
inductive TerminalColor where
  | rgb (color : Rgb)
  | darkGray
  | yellow
  | lightMagenta
  | lightCyan
  | lightBlue
  | blue
  | white
  deriving DecidableEq, Repr, Inhabited

/-- How a piece of text is shown. -/
structure TextStyle where
  foreground : Option TerminalColor := none
  background : Option TerminalColor := none
  bold : Bool := false
  italic : Bool := false
  underlined : Bool := false
  crossedOut : Bool := false
  deriving DecidableEq, Repr, Inhabited

/-- The style of text that is there to guide the eye. -/
def TextStyle.muted : TextStyle := { foreground := some .darkGray }

/-- The style of code as the terminal shows it. -/
def TextStyle.ofConcrete (style : ConcreteStyle) : TextStyle where
  foreground := some (.rgb style.foreground)
  background := style.background.map .rgb
  bold := style.fontStyle.bold
  italic := style.fontStyle.italic
  underlined := style.fontStyle.underline

/-- A piece of text in one style. -/
structure Segment where
  text : String
  style : TextStyle
  deriving DecidableEq, Repr, Inhabited

/-- Where a link leads, and the text it is shown by. -/
structure LinkTarget where
  label : String
  url : String
  deriving DecidableEq, Repr, Inhabited

/-- One line of a rendered block. -/
structure RenderedLine where
  segments : List Segment := []
  /-- The text of the line without its styles. -/
  plain : String := ""
  /-- The links that begin on this line. -/
  links : List LinkTarget := []
  deriving DecidableEq, Repr, Inhabited

/-- The lines that a block is shown as. -/
structure RenderedBlock where
  lines : List RenderedLine
  deriving DecidableEq, Repr, Inhabited

namespace RenderedBlock

/-- The text of the block without styles. -/
def plain (block : RenderedBlock) : String :=
  Text.join "\n" (block.lines.map (·.plain))

/-- The links of the block, each with the index of the line it begins on. -/
def links (block : RenderedBlock) : List (Nat × LinkTarget) :=
  block.lines.zipIdx.flatMap fun (line, index) => line.links.map fun link => (index, link)

end RenderedBlock

/-- Lines in the making: those that are done, and the current one. -/
structure LineBuilder where
  lines : List RenderedLine := []
  current : RenderedLine := {}
  deriving Repr, Inhabited

namespace LineBuilder

/-- Adds text to the current line. -/
def pushText (builder : LineBuilder) (text : String) (style : TextStyle) : LineBuilder :=
  if text = "" then builder
  else { builder with
    current := { builder.current with
      plain := builder.current.plain ++ text
      segments := builder.current.segments ++ [⟨text, style⟩] } }

/-- Notes that a link begins here. -/
def pushLink (builder : LineBuilder) (link : LinkTarget) : LineBuilder :=
  { builder with current := { builder.current with links := builder.current.links ++ [link] } }

/-- Ends the current line, whatever is on it. -/
def breakLine (builder : LineBuilder) : LineBuilder :=
  ⟨builder.lines ++ [builder.current], {}⟩

/-- The lines, with the current one if there is something on it. -/
def finish (builder : LineBuilder) : List RenderedLine :=
  if builder.current.segments.isEmpty && builder.current.links.isEmpty then builder.lines
  else builder.lines ++ [builder.current]

/-- The current line is kept, or else there is nothing on it. -/
theorem finish_cases (builder : LineBuilder) :
    (builder.current.segments = [] ∧ builder.current.links = [] ∧
      builder.finish = builder.lines) ∨
    builder.finish = builder.lines ++ [builder.current] := by
  unfold finish
  split
  · rename_i empty
    rw [Bool.and_eq_true, List.isEmpty_iff, List.isEmpty_iff] at empty
    exact .inl ⟨empty.1, empty.2, rfl⟩
  · exact .inr rfl

end LineBuilder

/-- A line with a marker in front. -/
def RenderedLine.marked (line : RenderedLine) (marker : String) (style : TextStyle) :
    RenderedLine where
  segments := ⟨marker, style⟩ :: line.segments
  plain := marker ++ line.plain
  links := line.links

/-- Lines with one marker in front of the first and another in front of the rest. -/
def markLines (lines : List RenderedLine) (first rest : String) (style : TextStyle) :
    List RenderedLine :=
  match lines with
  | [] => []
  | line :: more => line.marked first style :: more.map (·.marked rest style)

end MarkdownPager
