import MarkdownPager.Markdown.Definition
import MarkdownPager.Markdown.LeafBlock

/-!
# Block structure

A text is read line by line.  A line first closes the containers it does not belong to, then opens
new ones, and then begins a block that may take further lines.

A list is loose if an empty line stands between its items or between the blocks of an item.
Whether the last line was empty is remembered until something follows it.  A list item whose first
line is empty has to be followed by text at once.
-/

namespace MarkdownPager.Markdown

/-- An open container. -/
structure Frame where
  container : Container
  start : Nat
  /-- The blocks in it, the last first. -/
  children : List Outline

/-- How far the block structure of a text is read. -/
structure Blocks where
  /-- The blocks outside all open containers, the last first. -/
  done : List Outline
  /-- The open containers, the innermost first. -/
  frames : List Frame
  /-- The offset behind the marker of a list item that has no text yet. -/
  freshItem : Option Nat
  /-- Whether the last line was empty. -/
  afterBlank : Bool
  /-- A task marker that waits for its paragraph. -/
  task : Option TaskMarker
  definitions : Definitions

namespace Frame

/-- The start number of a list, if it is ordered. -/
def startNumber (marker : Line.Marker) : Option UInt64 := marker.number.map Nat.toUInt64

/-- A container that ends at an offset. -/
def close (stop : Nat) (frame : Frame) : Outline :=
  let span : Span := ⟨frame.start, stop⟩
  let children := frame.children.reverse
  match frame.container with
  | .quote => .quote span children
  | .list tight marker => .list span tight (startNumber marker) children
  | .item _ => .item span children
  | .footnote => .footnote span children

end Frame

namespace Blocks

/-- Nothing read. -/
def start : Blocks := ⟨[], [], none, false, none, .empty⟩

/-- The open containers, the outermost first. -/
def containers (blocks : Blocks) : List Container := (blocks.frames.map (·.container)).reverse

/-- The innermost open container. -/
def innermost? (blocks : Blocks) : Option Container := blocks.frames.head?.map (·.container)

/-- A block in the innermost container. -/
def add (block : Outline) (blocks : Blocks) : Blocks :=
  match blocks.frames with
  | [] => { blocks with done := block :: blocks.done }
  | frame :: outer =>
    { blocks with frames := { frame with children := block :: frame.children } :: outer }

/-- Opens a container. -/
def push (container : Container) (start : Nat) (blocks : Blocks) : Blocks :=
  { blocks with frames := ⟨container, start, []⟩ :: blocks.frames }

/-- Closes the innermost container. -/
def pop (stop : Nat) (blocks : Blocks) : Blocks :=
  match blocks.frames with
  | [] => blocks
  | frame :: outer => { blocks with frames := outer }.add (frame.close stop)

/-- Closes the `n` innermost containers. -/
def popAll (stop : Nat) : Nat → Blocks → Blocks
  | 0, blocks => blocks
  | n + 1, blocks => popAll stop n (blocks.pop stop)

/-- Makes the container at an index from the innermost on loose, if it is a list. -/
def loosen (index : Nat) (blocks : Blocks) : Blocks :=
  match blocks.frames.drop index with
  | ⟨.list _ marker, start, children⟩ :: outer =>
    { blocks with
      frames := blocks.frames.take index ++ ⟨.list false marker, start, children⟩ :: outer }
  | _ => blocks

/-- Closes a list item that got no text at once. -/
def finishFreshItem (blocks : Blocks) : Blocks :=
  let blocks := match blocks.freshItem, blocks.innermost? with
    | some stop, some (.item _) => if blocks.afterBlank then blocks.pop stop else blocks
    | _, _ => blocks
  { blocks with freshItem := none }

/-- Closes a list that is not gone on with. -/
def finishList (stop : Nat) (blocks : Blocks) : Blocks :=
  let blocks := blocks.finishFreshItem
  let blocks := match blocks.innermost? with
    | some (.list ..) => blocks.pop stop
    | _ => blocks
  if blocks.afterBlank then { blocks.loosen 1 with afterBlank := false } else blocks

/-- Goes on with a list, or begins one. -/
def continueList (start : Nat) (marker : Line.Marker) (blocks : Blocks) : Blocks :=
  let blocks := blocks.finishFreshItem
  let begin (blocks : Blocks) : Blocks :=
    { blocks.push (.list true marker) start with afterBlank := false }
  match blocks.innermost? with
  | none => begin blocks
  | some (.list _ other) =>
    if other.char = marker.char then
      if blocks.afterBlank then { blocks.loosen 0 with afterBlank := false } else blocks
    else begin (blocks.finishList start)
  | some _ => begin (blocks.finishList start)

/-- Notes an empty line. -/
def noteBlank (blocks : Blocks) : Blocks :=
  match blocks.frames with
  | [] => blocks
  | ⟨.quote, _, _⟩ :: _ => blocks
  | ⟨.item indentation, start, children⟩ :: outer =>
    let indentation := if blocks.freshItem.isSome then 0 else indentation
    { blocks with
      frames := ⟨.item indentation, start, children⟩ :: outer
      afterBlank := true }
  | _ => { blocks with afterBlank := true }

/-- Notes what a label stands for, unless that is known already. -/
def define (label : List Char) (meaning : Meaning) (blocks : Blocks) : Blocks :=
  let key := Link.labelKey label
  let links := blocks.definitions.links
  if (links.lookup key).isSome then blocks
  else { blocks with definitions := { blocks.definitions with links := (key, meaning) :: links } }

/-- Notes that there is a footnote of a name. -/
def defineFootnote (name : List Char) (blocks : Blocks) : Blocks :=
  { blocks with
    definitions :=
      { blocks.definitions with footnotes := Link.labelKey name :: blocks.definitions.footnotes } }

/-- Opens a footnote definition, if one begins here: the position behind its label. -/
def openFootnote? (cursor : Cursor) (blocks : Blocks) : Option (Blocks × Cursor) :=
  match cursor.rest with
  | '[' :: '^' :: cs =>
    match Link.labelRest? Link.noLineEnd cs with
    | some (name, ':' :: rest) =>
      let blocks := blocks.finishList cursor.offset
      let blocks := match blocks.innermost? with
        | some .footnote => blocks.pop cursor.offset
        | _ => blocks
      some ((blocks.defineFootnote name).push .footnote cursor.offset,
        cursor.moveTo (dropSpaces rest))
    | _ => none
  | _ => none

/-- The position behind the blanks after the marker of a list item, and the columns that its
content stands to the right of the marker's line. -/
def itemContent (columns : Nat) (cursor : Cursor) : Nat × Cursor :=
  if cursor.isBlankLine then (columns, cursor)
  else
    let (found, content) := cursor.takeColumns 4
    if found < 4 then (columns + found, content) else (columns, cursor)

/-- Reads the marker of a list item `outer` columns from the left: the marker, the columns of the
item's content, and the position of that. -/
def itemMarker? (outer : Nat) (cursor : Cursor) : Option (Line.Marker × Nat × Cursor) :=
  match Line.marker? cursor.rest with
  | some (marker, rest) =>
    if marker.number.isNone && (Line.rule? cursor.rest).isSome then none
    else
      let width := taken cursor.rest rest
      let behind := cursor.skip width
      let (found, apart) := behind.takeColumns 1
      if found = 1 || behind.atLineEnd then
        let (columns, content) := itemContent (outer + width + 1) apart
        some (marker, columns, content)
      else none
  | none => none

/-- Reads a task marker: whether the task is done, and the position behind the marker. -/
def taskMarker? (cursor : Cursor) : Option (Bool × Cursor) :=
  let behind := (cursor.takeColumns 3).2
  match behind.rest with
  | '[' :: c :: ']' :: next :: _ =>
    let done := c == 'x' || c == 'X'
    if (done || isSpace c) && isSpace next then some (done, behind.skip 3) else none
  | _ => none

/-- Where the opening of containers ended. -/
inductive Opened where
  /-- At the beginning of a block or in an empty line. -/
  | content (cursor : Cursor)
  /-- Behind a line that is read to its end. -/
  | lineRead (next : Cursor)

/-- Opens a list item whose content begins at a position. -/
def openItem (start : Nat) (columns : Nat) (content : Cursor) (blocks : Blocks) :
    Blocks × Opened :=
  let blocks := blocks.push (.item columns) start
  let fresh (blocks : Blocks) (cursor : Cursor) : Blocks × Opened :=
    let next := cursor.skipBlankLine
    ({ blocks with freshItem := some next.offset }, .lineRead next)
  if content.isBlankLine then fresh blocks content
  else
    match taskMarker? content with
    | none => (blocks, .content content)
    | some (done, behind) =>
      let marker : TaskMarker := ⟨⟨content.offset, behind.offset⟩, done⟩
      if behind.isBlankLine then fresh (blocks.add (.task marker)) behind
      else ({ blocks with task := some marker }, .content behind)

/-- Opens the containers that begin at a position in the line that began at `lineStart`. -/
def openContainers (lineStart : Nat) : Nat → Cursor → Blocks → Blocks × Opened
  | 0, cursor, blocks => (blocks, .content cursor)
  | fuel + 1, cursor, blocks =>
    let (outer, inner) := cursor.takeColumns 4
    if outer = 4 then (blocks, .content cursor)
    else
      match blocks.openFootnote? inner with
      | some (blocks, behind) => openContainers lineStart fuel behind blocks
      | none =>
        match itemMarker? outer inner with
        | some (marker, columns, content) =>
          match (blocks.continueList cursor.offset marker).openItem cursor.offset columns
              content with
          | (blocks, .content behind) => openContainers lineStart fuel behind blocks
          | opened => opened
        | none =>
          if inner.rest.head? == some '>' then
            let blocks := (blocks.finishList lineStart).push .quote cursor.offset
            openContainers lineStart fuel ((inner.skip 1).takeColumns 1).2 blocks
          else (blocks, .content cursor)

/-- A block that was read, behind the others. -/
def addLeaf (leaf : LeafBlock) (blocks : Blocks) : Blocks × Cursor :=
  (blocks.add leaf.outline, leaf.next)

/-- Reads a paragraph, an underlined heading or a table. -/
def readParagraph (cursor : Cursor) (blocks : Blocks) : Blocks × Cursor :=
  let leaf := match LeafBlock.table? blocks.containers cursor with
    | some leaf => leaf
    | none => LeafBlock.paragraph blocks.containers blocks.task cursor
  { blocks with task := none }.addLeaf leaf

/-- Reads the block that begins at a position, `indentation` columns behind its containers. -/
def readLeaf (indentation : Nat) (cursor : Cursor) (blocks : Blocks) : Blocks × Cursor :=
  let containers := blocks.containers
  match (LeafBlock.html? containers cursor).or (LeafBlock.rule? cursor) with
  | some leaf => blocks.addLeaf leaf
  | none =>
    match Line.headingLevel? cursor.rest with
    | some level => blocks.addLeaf (LeafBlock.heading level cursor)
    | none =>
      match Line.fence? cursor.rest with
      | some (char, length) =>
        blocks.addLeaf (LeafBlock.fencedCode containers ⟨char, length, indentation⟩ cursor)
      | none =>
        match LinkDefinition.read? containers cursor.rest with
        | some definition =>
          (blocks.define definition.label ⟨definition.url, definition.title⟩,
            (cursor.moveTo definition.rest).skipBlankLine)
        | none => blocks.readParagraph cursor

/-- Reads what stands in the containers of a line. -/
def readContent (lineStart : Nat) (cursor : Cursor) (blocks : Blocks) : Blocks × Cursor :=
  if cursor.isBlankLine then (blocks.noteBlank, cursor.skipBlankLine)
  else
    let blocks := blocks.finishList lineStart
    let (indentation, inner) := cursor.takeColumns 4
    if indentation = 4 then
      let (leaf, afterBlank) := LeafBlock.indentedCode blocks.containers inner
      { blocks with afterBlank }.addLeaf leaf
    else blocks.readLeaf indentation inner

/-- Reads a line and the block that begins in it. -/
def readLine (line : Cursor) (blocks : Blocks) : Blocks × Cursor :=
  let containers := blocks.containers
  let (count, content) := Container.enterAll line containers
  let blocks := blocks.popAll line.offset (containers.length - count)
  match blocks.openContainers line.offset (line.rest.length + 1) content with
  | (blocks, .lineRead next) => (blocks, next)
  | (blocks, .content cursor) => blocks.readContent line.offset cursor

/-- Reads up to the end of the text, and closes all containers there. -/
def readLines : Nat → Cursor → Blocks → Blocks
  | 0, line, blocks => blocks.popAll line.offset blocks.frames.length
  | fuel + 1, line, blocks =>
    if line.atEnd then blocks.popAll line.offset blocks.frames.length
    else
      let (blocks, next) := blocks.readLine line
      readLines fuel next blocks

/-- The block structure of a text. -/
def ofText (cs : List Char) : Blocks :=
  start.readLines (cs.length + 1) (.start cs)

end Blocks

/-- How many bytes may be written out for the labels of a text: as many as it has, but no fewer
than this. -/
def leastBudget : Nat := 100000

/-- The trees of a text. -/
def treesOfText (source : String) : List Tree :=
  let blocks := Blocks.ofText source.toList
  let budget := max source.utf8ByteSize leastBudget
  (Outline.treesOf blocks.definitions false budget blocks.done.reverse).1

/-- The events of a text. -/
def eventsOf (source : String) : Events := Tree.eventsOf (treesOfText source)

end MarkdownPager.Markdown
