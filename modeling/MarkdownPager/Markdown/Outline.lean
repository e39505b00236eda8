import MarkdownPager.Markdown.Bracket

/-!
# Outlines

An outline is the block structure of a text whose running text is not read yet.  It cannot be read
earlier: a label may be defined behind the place where it is used.

`Outline.trees` reads it, from the beginning of the document to its end, so that what one text
leaves of the budget for labels is there for the next.  The paragraphs of a tight list are not
marked as such: their content stands in the item.
-/

namespace MarkdownPager.Markdown

/-- The mark of a task that is done or not. -/
structure TaskMarker where
  span : Span
  done : Bool

/-- A block whose running text is not read yet. -/
inductive Outline where
  | paragraph (span : Span) (task : Option TaskMarker) (text : RunningText)
  | heading (span : Span) (level : Nat) (task : Option TaskMarker) (text : RunningText)
  | code (span : Span) (info : Option String) (lines : List String)
  | rule (span : Span)
  /-- A table or an HTML block.  Nothing in it is read, so that labels in the cells of a table are
  not charged. -/
  | raw (span : Span)
  | task (marker : TaskMarker)
  | list (span : Span) (tight : Bool) (start : Option UInt64) (items : List Outline)
  | item (span : Span) (children : List Outline)
  | quote (span : Span) (children : List Outline)
  | footnote (span : Span) (children : List Outline)

namespace TaskMarker

/-- A task marker as a leaf. -/
def tree (marker : TaskMarker) : Tree := .leaf (.taskMarker marker.done) marker.span

end TaskMarker

/-- Content with the task marker before it, if there is one. -/
def withTask (box : Option TaskMarker) (content : List Tree) : List Tree :=
  (box.map TaskMarker.tree).toList ++ content

/-- Running text with its markup, and what is left of the budget for labels. -/
def RunningText.trees (definitions : Definitions) (budget : Nat) (text : RunningText) :
    List Tree × Nat :=
  treesOfPieces definitions budget text.pieces

namespace Outline

mutual

/-- The trees of an outline, and what is left of the budget for labels.  `tight` says whether it
stands in an item of a tight list. -/
def trees (definitions : Definitions) (tight : Bool) (budget : Nat) : Outline → List Tree × Nat
  | .paragraph span box text =>
    let (running, left) := text.trees definitions budget
    let content := withTask box running
    (if tight then content else [.node .paragraph span content], left)
  | .heading span level box text =>
    let (running, left) := text.trees definitions budget
    ([.node (.heading level) span (withTask box running)], left)
  | .code span info lines =>
    ([.node (.code info) span (lines.map fun line => .leaf (.text line) span)], budget)
  | .rule span => ([.leaf .rule span], budget)
  | .raw span => ([.node .other span []], budget)
  | .task marker => ([marker.tree], budget)
  | .list span tight start items =>
    let (children, left) := treesOf definitions tight budget items
    ([.node (.list start) span children], left)
  | .item span blocks =>
    let (children, left) := treesOf definitions tight budget blocks
    ([.node .item span children], left)
  | .quote span blocks =>
    let (children, left) := treesOf definitions false budget blocks
    ([.node .quote span children], left)
  | .footnote span blocks =>
    let (children, left) := treesOf definitions false budget blocks
    ([.node .other span children], left)

/-- The trees of outlines, one after the other. -/
def treesOf (definitions : Definitions) (tight : Bool) (budget : Nat) :
    List Outline → List Tree × Nat
  | [] => ([], budget)
  | outline :: rest =>
    let (first, left) := trees definitions tight budget outline
    let (more, left) := treesOf definitions tight left rest
    (first ++ more, left)

end

end Outline

end MarkdownPager.Markdown
