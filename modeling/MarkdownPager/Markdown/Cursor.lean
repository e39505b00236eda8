import MarkdownPager.Markdown.LineEnd

/-!
# Cursors

A cursor stands somewhere in a text and looks at what follows.  Block structure depends on
columns, not on characters: a tab reaches to the next column divisible by four, and a mark that
needs one column takes it from the tab and leaves the others.  So a cursor knows how far it is
behind the last tab of its line and how many columns of a tab are left.
-/

namespace MarkdownPager.Markdown

/-- A position in a text. -/
structure Cursor where
  /-- Bytes before the position. -/
  offset : Nat
  /-- The text from the position on. -/
  rest : List Char
  /-- Bytes between the last tab of the line and the position. -/
  column : Nat
  /-- Columns of a tab before the position that are not taken yet. -/
  spare : Nat
  deriving Inhabited

namespace Cursor

/-- A cursor at the beginning of a line. -/
def lineAt (offset : Nat) (rest : List Char) : Cursor := ⟨offset, rest, 0, 0⟩

/-- The beginning of a text. -/
def start (cs : List Char) : Cursor := lineAt 0 cs

/-- Whether the text ends here. -/
def atEnd (cursor : Cursor) : Bool := cursor.rest.isEmpty

/-- Whether the line ends here. -/
def atLineEnd (cursor : Cursor) : Bool := Markdown.atLineEnd cursor.rest

/-- Whether there are only blanks left in the line. -/
def isBlankLine (cursor : Cursor) : Bool := Markdown.isBlankLine cursor.rest

/-- The position behind the next `n` characters, in the same line. -/
def skip : Nat → Cursor → Cursor
  | 0, cursor => cursor
  | n + 1, cursor =>
    match cursor.rest with
    | [] => cursor
    | c :: cs => skip n ⟨cursor.offset + c.utf8Size, cs, cursor.column + c.utf8Size, cursor.spare⟩

/-- The beginning of another line, where only `rest` is left. -/
def moveTo (rest : List Char) (cursor : Cursor) : Cursor :=
  let moved := cursor.skip (taken cursor.rest rest)
  lineAt moved.offset rest

/-- Takes up to `wanted` columns of blanks: how many were missing, and the position behind them. -/
def takeColumnsFrom (wanted offset column : Nat) : List Char → Nat × Cursor
  | [] => (wanted, ⟨offset, [], column, 0⟩)
  | c :: cs =>
    if wanted = 0 then (0, ⟨offset, c :: cs, column, 0⟩)
    else if c = ' ' then takeColumnsFrom (wanted - 1) (offset + 1) (column + 1) cs
    else if c = '\t' then
      let width := 4 - column % 4
      if wanted ≤ width then (0, ⟨offset + 1, cs, 0, width - wanted⟩)
      else takeColumnsFrom (wanted - width) (offset + 1) 0 cs
    else (wanted, ⟨offset, c :: cs, column, 0⟩)

/-- Takes up to `wanted` columns: how many there were, and the position behind them. -/
def takeColumns (wanted : Nat) (cursor : Cursor) : Nat × Cursor :=
  if wanted ≤ cursor.spare then (wanted, { cursor with spare := cursor.spare - wanted })
  else
    let (missing, cursor) :=
      takeColumnsFrom (wanted - cursor.spare) cursor.offset cursor.column cursor.rest
    (wanted - missing, cursor)

/-- Takes exactly `wanted` columns, if there are as many. -/
def columns? (wanted : Nat) (cursor : Cursor) : Option Cursor :=
  let (found, behind) := cursor.takeColumns wanted
  if found = wanted then some behind else none

/-- The position behind the spaces and tabs. -/
def skipIndentation (cursor : Cursor) : Cursor :=
  let cursor := { cursor with spare := 0 }
  cursor.skip (cursor.rest.takeWhile fun c => c == ' ' || c == '\t').length

/-- The position behind the blanks. -/
def skipBlanks (cursor : Cursor) : Cursor :=
  cursor.skip (cursor.rest.takeWhile isSpace).length

/-- The characters up to the next line feed, with it, and the position behind them.  A carriage
return alone ends no such line. -/
def takeLine (cursor : Cursor) : List Char × Cursor :=
  let body := cursor.rest.takeWhile (· != '\n')
  let line := cursor.rest.take (body.length + 1)
  (line, cursor.moveTo (cursor.rest.drop line.length))

/-- The beginning of the next line, where only blanks are left in this one; otherwise the position
itself. -/
def skipBlankLine (cursor : Cursor) : Cursor :=
  match afterBlankLine? cursor.rest with
  | some rest => cursor.moveTo rest
  | none => cursor

end Cursor

end MarkdownPager.Markdown
