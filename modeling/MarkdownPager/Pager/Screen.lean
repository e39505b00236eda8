import MarkdownPager.Text.Blank

/-!
# The screen

A screen is a grid of character cells, and its sizes are numbers of sixteen bits: what would be
larger counts as the largest of them.

A line is made of texts that stand next to each other.  How many cells it takes, and where it is
broken if it is wider than the screen, is up to a `TextLayout`.
-/

namespace MarkdownPager

/-- The largest screen coordinate. -/
def maxCoordinate : Nat := 65535

/-- A number as a screen coordinate. -/
def saturate (n : Nat) : Nat := min n maxCoordinate

/-- A part of the screen. -/
structure Rect where
  x : Nat
  y : Nat
  width : Nat
  height : Nat
  deriving DecidableEq, Repr, Inhabited

namespace Rect

/-- The part inside a margin on both sides. -/
def inset (rect : Rect) (horizontal vertical : Nat) : Rect where
  x := saturate (rect.x + horizontal)
  y := saturate (rect.y + vertical)
  width := rect.width - saturate (2 * horizontal)
  height := rect.height - saturate (2 * vertical)

end Rect

/-- How texts are laid out in the cells of a screen. -/
structure TextLayout where
  /-- The number of columns that a line takes. -/
  columns : List String → Nat
  /-- The rows of a line that is broken to fit into some number of columns. -/
  rows : Nat → List String → List (List Char)
  /-- What is left of a text that is cut off at some number of columns. -/
  cut : Nat → List Char → List Char

namespace Screen

/-- A row without the blanks at its end. -/
def rowText (row : List Char) : String :=
  .ofList (Text.dropRightWhile (· == ' ') row)

/-- The title of the page. -/
def title : List Char := " livemd ".toList

/-- The line above the page, with the title in it. -/
def titleRow (width : Nat) : List Char :=
  (title ++ List.replicate (width - title.length) '─').take width

/-- The rows of a page: `scroll` of them are above the screen, and the screen shows `height`. -/
def contentRows (layout : TextLayout) (width height scroll : Nat) (lines : List (List String)) :
    List (List Char) :=
  if width = 0 then []
  else ((lines.flatMap (layout.rows width)).drop scroll).take height

/-- The rows of a screen with a page, below its title, and a status line at the bottom. -/
def rows (layout : TextLayout) (width height scroll : Nat) (lines : List (List String))
    (status : List Char) : List String :=
  let bodyHeight := if height ≤ 1 then height else height - 1
  let content := contentRows layout (width - 4) (bodyHeight - 1) scroll lines
  let body := (' ' :: titleRow (width - 2)) :: content.map fun row => ' ' :: ' ' :: row
  let empty := List.replicate (bodyHeight - body.length) []
  let status := [' ' :: ' ' :: layout.cut (width - 4) status]
  ((body ++ empty).take bodyHeight ++ (status.take (height - bodyHeight))).map rowText

end Screen

end MarkdownPager
