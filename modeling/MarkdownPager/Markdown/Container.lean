import MarkdownPager.Markdown.Cursor
import MarkdownPager.Markdown.Line
import MarkdownPager.Markdown.Link

/-!
# Containers and what goes on in them

Quotes, list items and footnote definitions hold other blocks.  A line belongs to a container if
it begins with what the container asks for: a quote asks for its mark, an item and a footnote for
their indentation, unless the line is empty.

A line that does not belong to all containers can still go on with a paragraph, unless a new block
begins there (`interrupts`).
-/

namespace MarkdownPager.Markdown

/-- A block that holds other blocks. -/
inductive Container where
  | quote
  | list (tight : Bool) (marker : Line.Marker)
  /-- A list item whose content stands this many columns to the right. -/
  | item (indentation : Nat)
  | footnote

namespace Container

/-- The position behind the columns that an item asks for, or anywhere in an empty line. -/
def indented? (columns : Nat) (cursor : Cursor) : Option Cursor :=
  let (found, behind) := cursor.takeColumns columns
  if found = columns || behind.atLineEnd then some behind else none

/-- The position behind what a container asks for, if the line belongs to it. -/
def enter? (container : Container) (cursor : Cursor) : Option Cursor :=
  match container with
  | .quote =>
    let behind := (cursor.takeColumns 3).2
    if behind.rest.head? == some '>' then some ((behind.skip 1).takeColumns 1).2 else none
  | .list .. => some cursor
  | .item indentation => indented? indentation cursor
  | .footnote => indented? 4 cursor

/-- To how many of the containers a line belongs, the outermost first, and the position behind what
these ask for. -/
def enterAll (cursor : Cursor) : List Container → Nat × Cursor
  | [] => (0, cursor)
  | container :: inner =>
    match container.enter? cursor with
    | some behind =>
      let (count, behind) := enterAll behind inner
      (count + 1, behind)
    | none => (0, cursor)

/-- The position behind what all containers ask for, if the line belongs to all. -/
def inside? (containers : List Container) (cursor : Cursor) : Option Cursor :=
  let (count, behind) := enterAll cursor containers
  if count = containers.length then some behind else none

/-- Whether a footnote definition begins here. -/
def startsFootnote (cs : List Char) : Bool :=
  match cs with
  | '[' :: '^' :: cs => (Link.labelRest? Link.noLineEnd cs).any fun (_, rest) => rest.head? == some ':'
  | _ => false

/-- Whether a block begins here, or the line is empty.  `anyItem` lets every list item begin. -/
def startsBlock (anyItem : Bool) (cs : List Char) : Bool :=
  atLineEnd cs || (Line.rule? cs).isSome || (Line.headingLevel? cs).isSome ||
    (Line.fence? cs).isSome || cs.head? == some '>' || Line.itemInterrupts anyItem cs ||
    Line.htmlInterrupts cs || startsFootnote cs

/-- What follows the delimiter row of a table, if `cs` begins with the line above it and the row
stands in the same containers. -/
def afterTableHead? (containers : List Container) (cs : List Char) : Option (List Char) :=
  let line := Line.body cs
  match Line.headerCells? line, cs.drop line.length with
  | some cells, lineEnd@(_ :: _) =>
    (afterLineEnd? lineEnd).bind fun rest =>
      (inside? containers (.lineAt 0 rest)).bind fun cursor =>
        match Line.delimiterCells? cursor.rest with
        | some (found, rest) => if found = cells then some rest else none
        | none => none
  | _, _ => none

/-- Whether the paragraph before this line ends.  `current` says whether the line belongs to all
containers. -/
def interrupts (containers : List Container) (current : Bool) (cs : List Char) : Bool :=
  startsBlock (!current) cs ||
    (cs.head? == some '|' && (afterTableHead? containers cs).isSome)

/-- A line that may go on with what was begun before it. -/
structure Continuation where
  /-- The position behind what the containers ask for. -/
  content : Cursor
  /-- The position behind up to three further columns, or four in an indented line. -/
  indented : Cursor
  /-- Whether the line belongs to all containers. -/
  current : Bool
  /-- Whether the line is indented by four columns. -/
  deep : Bool

/-- Looks at the beginning of a line. -/
def continuation (containers : List Container) (line : Cursor) : Continuation :=
  let (count, content) := enterAll line containers
  let (found, indented) := content.takeColumns 4
  ⟨content, indented, count = containers.length, found = 4⟩

namespace Continuation

/-- Whether a line underlines the text before it. -/
def underlines (line : Continuation) : Bool :=
  line.current && (Line.underline? line.indented.rest).isSome

/-- Whether a line ends the text before it. -/
def ends (containers : List Container) (line : Continuation) : Bool :=
  line.underlines || interrupts containers line.current line.indented.rest

end Continuation

end Container

end MarkdownPager.Markdown
