import MarkdownPager.Markdown.Html
import MarkdownPager.Markdown.LineEnd
import MarkdownPager.Text.Word

/-!
# What a line begins with

The beginning of a line, without the marks of quotes and lists and without indentation, tells what
kind of block it begins: a rule, a heading, a fence, a list item, a row of a table.  The functions
here look at such a beginning and at nothing behind the line.
-/

namespace MarkdownPager.Markdown

namespace Line

/-- The characters up to the end of the line. -/
def body (cs : List Char) : List Char := cs.takeWhile (!isLineEnd ·)

/-- What follows a line that is a rule: three or more of one mark, with blanks between them. -/
def rule? (cs : List Char) : Option (List Char) :=
  match cs with
  | [] => none
  | c :: _ =>
    let line := body cs
    if (c == '*' || c == '-' || c == '_') && line.all (fun d => d == c || d == ' ' || d == '\t') &&
        3 ≤ line.count c then
      afterLineEnd? (cs.drop line.length)
    else none

/-- The level of a heading that is marked by number signs. -/
def headingLevel? (cs : List Char) : Option Nat :=
  let level := countLeading '#' cs
  if 1 ≤ level && level ≤ 6 && (cs.drop level).head?.all isSpaceOrLineEnd then some level else none

/-- The level of a heading that this line underlines, and what follows the line. -/
def underline? (cs : List Char) : Option (Nat × List Char) :=
  match cs with
  | [] => none
  | c :: _ =>
    if c == '=' || c == '-' then
      (afterBlankLine? (cs.drop (countLeading c cs))).map (if c == '=' then 1 else 2, ·)
    else none

/-- The character and the length of a fence that opens a code block.  There is no backtick behind
a fence of backticks. -/
def fence? (cs : List Char) : Option (Char × Nat) :=
  match cs with
  | [] => none
  | c :: _ =>
    let length := countLeading c cs
    let info := (cs.drop length).takeWhile (· != '\n')
    if (c == '~' || c == '`') && 3 ≤ length && !(c == '`' && info.contains '`') then
      some (c, length)
    else none

/-- What follows the fence that closes a code block, from behind the spaces after it on.  The end
of the text closes it too. -/
def closingFence? (fence : Char) (length : Nat) (cs : List Char) : Option (List Char) :=
  if cs.isEmpty then some []
  else
    let count := countLeading fence cs
    let rest := (cs.drop count).dropWhile (· == ' ')
    if length ≤ count && atLineEnd rest then some rest else none

/-- The mark of a list item. -/
structure Marker where
  /-- The bullet, or what stands behind the number. -/
  char : Char
  /-- The number; nothing for a bullet. -/
  number : Option Nat
  deriving DecidableEq, Inhabited

/-- The value of decimal digits. -/
def numberOf (digits : List Char) : Nat :=
  digits.foldl (fun n c => n * 10 + (c.toNat - '0'.toNat)) 0

/-- A bullet or a number of at most nine digits, and what follows it. -/
def marker? (cs : List Char) : Option (Marker × List Char) :=
  match cs with
  | [] => none
  | c :: rest =>
    if c == '-' || c == '+' || c == '*' then some (⟨c, none⟩, rest)
    else
      let digits := (cs.take 9).takeWhile Text.isAsciiDigit
      match cs.drop digits.length with
      | c :: rest =>
        if !digits.isEmpty && (c == '.' || c == ')') then some (⟨c, some (numberOf digits)⟩, rest)
        else none
      | [] => none

/-- Whether a marker stands apart from what follows it. -/
def standsApart (rest : List Char) : Bool :=
  match rest with
  | [] => true
  | c :: _ => c == ' ' || c == '\t' || isLineEnd c

/-- Whether this line and the next are empty. -/
def isEmptyTwice (cs : List Char) : Bool :=
  (afterBlankLine? cs).any isBlankLine

/-- Whether a list item beginning here ends the paragraph before it.  Outside its containers any
does; otherwise the item has to have text, and a numbered one has to be the first. -/
def itemInterrupts (always : Bool) (cs : List Char) : Bool :=
  (marker? cs).any fun (marker, rest) =>
    standsApart rest && (always || (marker.number.getD 1 == 1 && !isEmptyTwice rest))

/-- The number of bars in a line, and whether there are only blanks behind the last one.  A bar
behind a backslash is none. -/
def bars (found : Nat × Bool) (previous : Char) : List Char → Nat × Bool
  | [] => found
  | c :: cs =>
    if c == '|' && previous != '\\' then bars (found.1 + 1, true) c cs
    else bars (found.1, found.2 && isSpace c) c cs

/-- The number of cells of a line above a delimiter row.  Nothing if there is no bar. -/
def headerCells? (line : List Char) : Option Nat :=
  match bars (0, false) ' ' line with
  | (0, _) => none
  | (count, closed) =>
    let leading := if (dropSpaces line).head? == some '|' then 1 else 0
    some (count - leading + if closed then 0 else 1)

/-- How far a delimiter row is read. -/
structure DelimiterRow where
  /-- Cells that a bar closed. -/
  cells : Nat
  /-- Whether the open cell has something in it. -/
  begun : Bool
  /-- Whether the open cell has a hyphen. -/
  hyphen : Bool
  /-- Whether any cell has a hyphen. -/
  anyHyphen : Bool

/-- Reads the characters of a delimiter row. -/
def DelimiterRow.read? (row : DelimiterRow) : List Char → Option DelimiterRow
  | [] => some row
  | c :: cs =>
    if c == ' ' then row.read? cs
    else if c == ':' then { row with begun := true }.read? cs
    else if c == '-' then { row with begun := true, hyphen := true, anyHyphen := true }.read? cs
    else if c == '|' && row.hyphen then
      { row with cells := row.cells + 1, begun := false, hyphen := false }.read? cs
    else none

/-- The number of cells of a delimiter row, and what follows the line.  There is a bar before or
behind at least one cell. -/
def delimiterCells? (cs : List Char) : Option (Nat × List Char) :=
  let line := body cs
  let indentation := countLeading ' ' line
  let (leading, cells) := match line.drop indentation with
    | '|' :: cells => (true, cells)
    | cells => (false, cells)
  match if 3 < indentation then none else DelimiterRow.read? ⟨0, false, false, false⟩ cells with
  | some row =>
    if (row.cells = 0 && !leading) || !row.anyHyphen then none
    else
      (afterLineEnd? (cs.drop line.length)).map (row.cells + (if row.begun then 1 else 0), ·)
  | none => none

/-- Whether a row of a table is nothing but a bar. -/
def isLoneBar (cs : List Char) : Bool :=
  match cs with
  | '|' :: cs => isBlankLine cs
  | _ => false

/-- Whether an HTML block begins here that ends the paragraph before it. -/
def htmlInterrupts (cs : List Char) : Bool :=
  match cs with
  | '<' :: cs => (Html.blockEnd? cs).isSome || Html.startsBlockTag cs
  | _ => false

end Line

end MarkdownPager.Markdown
