import MarkdownPager.Pager.Screen

/-!
# Wrapping

A line that is wider than the screen is broken into rows.  White space between words stays where it
is, except that a row does not begin with what the row before it had no room for: the white space
that the break takes is as wide as the room left in the old row, and one column wider.

A word that is wider than a row is broken anywhere.

All of this is for texts in which every character takes one column; `TextLayout.singleColumn` lays
them out.
-/

namespace MarkdownPager

/-- How far the wrapping of a line has come.  All texts are reversed. -/
structure Wrap where
  /-- The finished rows, the last first. -/
  rows : List (List Char)
  /-- The row in the making. -/
  row : List Char
  /-- The white space behind it. -/
  spaces : List Char
  /-- The word behind that. -/
  word : List Char
  /-- Whether the last character belongs to a word. -/
  inWord : Bool

namespace Wrap

/-- Nothing read. -/
def start : Wrap := ⟨[], [], [], [], false⟩

/-- White space at which a line can be broken. -/
def isBreak (c : Char) : Bool := Text.isBlank c && c != '\u00a0'

/-- Puts the white space and the word into the row. -/
def settle (wrap : Wrap) : Wrap :=
  { wrap with row := wrap.word ++ (wrap.spaces ++ wrap.row), spaces := [], word := [] }

/-- Finishes the row.  The white space behind it loses one column more than there was room. -/
def breakRow (width : Nat) (wrap : Wrap) : Wrap :=
  let lost := width - wrap.row.length + 1
  { wrap with
    rows := wrap.row :: wrap.rows
    row := []
    spaces := wrap.spaces.take (wrap.spaces.length - lost) }

/-- Adds a character behind everything. -/
def add (c : Char) (wrap : Wrap) : Wrap :=
  if isBreak c then { wrap with spaces := c :: wrap.spaces, inWord := false }
  else { wrap with word := c :: wrap.word, inWord := true }

/-- Reads a character. -/
def read (width : Nat) (wrap : Wrap) (c : Char) : Wrap :=
  let complete := (wrap.inWord && isBreak c) ||
    (width < wrap.word.length + wrap.spaces.length + 1 && wrap.row.isEmpty)
  let wrap := if complete then wrap.settle else wrap
  if width ≤ wrap.row.length ||
      width ≤ wrap.row.length + wrap.spaces.length + wrap.word.length then
    let room := width - wrap.row.length
    let swallowed := isBreak c && wrap.spaces.length ≤ room
    let wrap := wrap.breakRow width
    if swallowed then wrap else wrap.add c
  else wrap.add c

/-- The rows of everything read, the last first.  There is at least one. -/
def finish (wrap : Wrap) : List (List Char) :=
  let wrap :=
    if wrap.word.isEmpty && wrap.spaces.isEmpty then wrap
    else if wrap.row.isEmpty && wrap.word.isEmpty then { wrap with rows := [] :: wrap.rows }
    else wrap.settle
  let rows := if wrap.row.isEmpty then wrap.rows else wrap.row :: wrap.rows
  if rows.isEmpty then [[]] else rows

end Wrap

/-- The rows of a text on a screen of some width. -/
def wrapLine (width : Nat) (line : List Char) : List (List Char) :=
  (line.foldl (Wrap.read width) .start).finish.reverse.map List.reverse

/-- The characters of texts that are shown next to each other. -/
def charsOf (texts : List String) : List Char :=
  (texts.flatMap String.toList).filter (· != '\n')

/-- The layout of texts in which every character takes one column. -/
def TextLayout.singleColumn : TextLayout where
  columns texts := (charsOf texts).length
  rows width texts := wrapLine width (charsOf texts)
  cut := List.take

end MarkdownPager
