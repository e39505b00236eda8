import MarkdownPager.Markdown.Container
import MarkdownPager.Markdown.Entity
import MarkdownPager.Markdown.Outline

/-!
# Blocks that hold no blocks

Code, HTML, headings, paragraphs and tables go on from line to line as long as the lines belong to
the containers around them and nothing else ends them.  Each reader begins where the block begins
and gives the block with the position where the next line is read.

The readers of further lines are told by `fuel` how many characters there are at most: every line
takes at least one.
-/

namespace MarkdownPager.Markdown

/-- A block that was read, and where the reading goes on. -/
structure LeafBlock where
  outline : Outline
  next : Cursor

namespace LeafBlock

/-- A line of code with its line end.  A carriage return before the last character is left out. -/
def codeLine (line : List Char) : List Char :=
  match line.reverse with
  | last :: '\r' :: front => if last.utf8Size = 1 then front.reverse ++ [last] else line
  | _ => line

/-- The text of a line of code.  The columns of a tab that are not taken are spaces. -/
def codeText (spare : Nat) (line : List Char) : String :=
  .ofList (List.replicate spare ' ' ++ codeLine line)

/-- A line of an indented code block. -/
structure IndentedLine where
  text : String
  /-- The offset behind the line. -/
  stop : Nat
  blank : Bool

/-- The lines of an indented code block from a position on, and the beginning of the first line
that is none of them. -/
def indentedLines (containers : List Container) :
    Nat → Bool → Cursor → List IndentedLine × Cursor
  | 0, _, cursor => ([], cursor)
  | fuel + 1, blank, cursor =>
    let (line, next) := cursor.takeLine
    let read : IndentedLine := ⟨codeText cursor.spare line, next.offset, blank⟩
    match (Container.inside? containers next).bind (Container.indented? 4) with
    | none => ([read], next)
    | some content =>
      if content.atEnd then ([read], next)
      else
        let (lines, next) := indentedLines containers fuel content.isBlankLine content
        (read :: lines, next)

/-- Reads an indented code block, from behind the indentation of its first line on.  Empty lines at
its end are none of it; the last component says whether there are any. -/
def indentedCode (containers : List Container) (cursor : Cursor) : LeafBlock × Bool :=
  let (lines, next) := indentedLines containers (cursor.rest.length + 1) false cursor
  let kept := (lines.reverse.dropWhile (·.blank)).reverse
  let stop := (kept.getLast?.map (·.stop)).getD cursor.offset
  (⟨.code ⟨cursor.offset, stop⟩ none (kept.map (·.text)), next⟩,
    (lines.getLast?.map (·.blank)).getD false)

/-- A fence that opens a code block. -/
structure Fence where
  char : Char
  length : Nat
  /-- The columns before the fence. -/
  indentation : Nat

/-- The lines of a fenced code block from the beginning of a line on, the offset where the block
ends, and the position where the reading goes on. -/
def fencedLines (containers : List Container) (fence : Fence) :
    Nat → Cursor → List String × Nat × Cursor
  | 0, line => ([], line.offset, line)
  | fuel + 1, line =>
    match Container.inside? containers line with
    | none => ([], line.offset, line)
    | some content =>
      let content := (content.takeColumns fence.indentation).2
      let room := 4 - fence.indentation
      let (found, behind) := content.takeColumns room
      match if found < room then Line.closingFence? fence.char fence.length behind.rest else none with
      | some rest =>
        let stop := behind.skip (taken behind.rest rest)
        ([], stop.offset, stop.skipBlankLine)
      | none =>
        let (text, next) := content.takeLine
        let (lines, stop, next) := fencedLines containers fence fuel next
        (codeText content.spare text :: lines, stop, next)

/-- Reads a fenced code block, from the fence on. -/
def fencedCode (containers : List Container) (fence : Fence) (cursor : Cursor) : LeafBlock :=
  let (info, next) := (cursor.skip fence.length).skipBlanks.takeLine
  let info := unescape (Text.dropRightWhile isSpaceOrLineEnd info)
  let (lines, stop, next) := fencedLines containers fence (next.rest.length + 1) next
  ⟨.code ⟨cursor.offset, stop⟩ (some (.ofList info)) lines, next⟩

/-- Whether `word` stands anywhere in a text. -/
def contains (word text : List Char) : Bool := (Html.afterFirst? word text).isSome

/-- The offset behind an HTML block that `word` ends, and the position where the reading goes
on. -/
def htmlUntil (containers : List Container) (word : List Char) : Nat → Cursor → Nat × Cursor
  | 0, cursor => (cursor.offset, cursor)
  | fuel + 1, cursor =>
    let (line, next) := cursor.takeLine
    match Container.inside? containers next with
    | none => (next.offset, next)
    | some content =>
      if contains word line then (next.offset, next)
      else if content.atEnd then (content.offset, next)
      else htmlUntil containers word fuel content

/-- The offset behind an HTML block that an empty line ends, and the position where the reading
goes on. -/
def htmlUntilBlank (containers : List Container) : Nat → Cursor → Nat × Cursor
  | 0, cursor => (cursor.offset, cursor)
  | fuel + 1, cursor =>
    let next := cursor.takeLine.2
    match Container.inside? containers next with
    | none => (next.offset, next)
    | some content =>
      if content.atLineEnd then (next.offset, next)
      else if content.isBlankLine then (content.offset, next)
      else htmlUntilBlank containers fuel content

/-- Reads an HTML block, if one begins at the position. -/
def html? (containers : List Container) (cursor : Cursor) : Option LeafBlock :=
  match cursor.rest with
  | '<' :: behind =>
    let fuel := cursor.rest.length + 1
    let found := match Html.blockEnd? behind with
      | some word => some (htmlUntil containers word.toList fuel cursor)
      | none =>
        if Html.startsBlockTag behind || Html.isLoneTag behind then
          some (htmlUntilBlank containers fuel cursor)
        else none
    found.map fun (stop, next) => ⟨.raw ⟨cursor.offset, stop⟩, next⟩
  | _ => none

/-- Reads a rule, if one stands at the position. -/
def rule? (cursor : Cursor) : Option LeafBlock :=
  (Line.rule? cursor.rest).map fun rest =>
    let next := cursor.moveTo rest
    ⟨.rule ⟨cursor.offset, next.offset⟩, next⟩

/-- The length in bytes of the text of a heading, without the number signs and spaces at its
end. -/
def headingTextLength (line : List Char) : Nat :=
  let text := Text.dropRightWhile (fun c => isLineEnd c || c == ' ') line
  let unclosed := Text.dropRightWhile (· == '#') text
  let trimmed := Text.dropRightWhile (· == ' ') unclosed
  if unclosed.isEmpty then 0
  else if trimmed.length < unclosed.length then Text.byteLength trimmed
  else Text.byteLength text

/-- Reads a heading of a level, from its number signs on. -/
def heading (level : Nat) (cursor : Cursor) : LeafBlock :=
  let text := cursor.skip level
  let text := if text.atLineEnd then text else text.skipBlanks
  let line := Line.body text.rest
  let next := match afterLineEnd? (text.rest.drop line.length) with
    | some rest => cursor.moveTo rest
    | none => cursor
  let source := text.rest.take (taken text.rest next.rest)
  let limit := text.offset + headingTextLength source
  let continued := line.length < source.length && !next.atEnd
  ⟨.heading ⟨cursor.offset, next.offset⟩ level none
    ⟨text.offset, source, [], continued, some limit⟩, next⟩

/-- The offset behind the rows of a table, from the beginning of a line on. -/
def tableRows (containers : List Container) : Nat → Cursor → Cursor
  | 0, line => line
  | fuel + 1, line =>
    match Container.inside? containers line with
    | none => line
    | some content =>
      let row := content.skipIndentation
      if Container.startsBlock true row.rest || Line.isLoneBar row.rest then line
      else
        match afterLineEnd? (row.rest.drop (Line.body row.rest).length) with
        | some rest => tableRows containers fuel (row.moveTo rest)
        | none => line

/-- Reads a table, if its first line stands at the position. -/
def table? (containers : List Container) (cursor : Cursor) : Option LeafBlock :=
  let line := Line.body cursor.rest
  let backslashes := (line.reverse.takeWhile (· == '\\')).length
  if backslashes % 2 = 1 then none
  else
    (Container.afterTableHead? containers cursor.rest).map fun rest =>
      let next := tableRows containers (rest.length + 1) (cursor.moveTo rest)
      ⟨.raw ⟨cursor.offset, next.offset⟩, next⟩

/-- How a paragraph ends. -/
structure ParagraphEnd where
  /-- The marks at the beginning of the lines behind the first. -/
  gaps : List Span
  /-- The offset behind the text. -/
  textStop : Nat
  /-- The level of the heading that the text is, if it is underlined. -/
  level : Option Nat
  next : Cursor

/-- Reads a paragraph up to its end, from a position in one of its lines on. -/
def paragraphLines (containers : List Container) : Nat → Cursor → ParagraphEnd
  | 0, cursor => ⟨[], cursor.offset, none, cursor⟩
  | fuel + 1, cursor =>
    let next := match afterLineEnd? (cursor.rest.drop (Line.body cursor.rest).length) with
      | some rest => cursor.moveTo rest
      | none => cursor
    let line := Container.continuation containers next
    let stopped : ParagraphEnd := ⟨[], next.offset, none, next⟩
    let underline := if line.current && !line.deep then Line.underline? line.indented.rest else none
    match underline with
    | some (level, rest) => { stopped with level := some level, next := line.indented.moveTo rest }
    | none =>
      let text := line.indented.skipIndentation
      if !line.deep && Container.interrupts containers line.current line.indented.rest then stopped
      else if text.atLineEnd then stopped
      else
        let tail := paragraphLines containers fuel text
        { tail with gaps := ⟨next.offset, line.content.offset⟩ :: tail.gaps }

/-- Reads a paragraph or an underlined heading. -/
def paragraph (containers : List Container) (task : Option TaskMarker) (cursor : Cursor) :
    LeafBlock :=
  let tail := paragraphLines containers (cursor.rest.length + 1) cursor
  let source := (Text.takeBytes (tail.textStop - cursor.offset) cursor.rest).getD cursor.rest
  let text : RunningText := ⟨cursor.offset, source, tail.gaps, false, none⟩
  let span : Span := ⟨cursor.offset, tail.next.offset⟩
  match tail.level with
  | some level => ⟨.heading span level task text, tail.next⟩
  | none => ⟨.paragraph span task text, tail.next⟩

end LeafBlock

end MarkdownPager.Markdown
