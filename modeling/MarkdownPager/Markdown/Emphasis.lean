import MarkdownPager.Markdown.Event

/-!
# Emphasis

A run of `*` or `_` opens emphasis that a later run closes, and a run of one or two `~` opens
struck-out text.  A closing run looks for its partner among the runs left open, the last one first,
and gives up what was opened in between.

Two marks of each run make strong emphasis and one makes simple emphasis.  Marks without a partner
are shown as they are.
-/

namespace MarkdownPager.Markdown

/-- One character of a run, with the text to show if it has no partner. -/
structure Mark where
  text : String
  span : Span

/-- The mark as text. -/
def Mark.tree (mark : Mark) : Tree := .leaf (.text mark.text) mark.span

/-- A run of marks.  It has at least one mark when it is read. -/
structure Run where
  char : Char
  canOpen : Bool
  canClose : Bool
  marks : List Mark

/-- Running text whose links and code spans are known. -/
inductive Strand where
  | tree (tree : Tree)
  | run (run : Run)
  /-- A line end after a backslash. -/
  | escapedBreak (span : Span)

namespace Emphasis

/-- A run that is open. -/
structure Opener where
  char : Char
  /-- The marks that have no partner yet. -/
  marks : List Mark
  /-- The number of marks the run had first. -/
  length : Nat
  /-- Whether the run could have closed something too. -/
  both : Bool
  /-- What stands between the run and the one opened before it, the last first. -/
  before : List Tree

/-- How far the reading has come. -/
structure State where
  /-- What stands behind the innermost open run, the last first. -/
  done : List Tree
  /-- The open runs, the innermost first. -/
  openers : List Opener
  /-- The number of outermost open runs that no tilde looks at any more. -/
  hidden : Nat

/-- A tree behind everything read. -/
def State.push (tree : Tree) (state : State) : State :=
  { state with done := tree :: state.done }

/-- Marks shown behind other trees, the last first. -/
def behind (done : List Tree) (marks : List Mark) : List Tree :=
  (marks.map Mark.tree).reverse ++ done

/-- What stands behind an open run when the runs opened since then are given up. -/
def giveUp (done : List Tree) (openers : List Opener) : List Tree :=
  match openers with
  | [] => done
  | opener :: outer => giveUp (done ++ behind opener.before opener.marks) outer

/-- Whether a closing run matches an open one. -/
def partners (run : Run) (length : Nat) (opener : Opener) : Bool :=
  opener.char == run.char &&
    (run.char != '~' || opener.length == length) &&
    (!(run.canOpen && run.canClose) && !opener.both ||
      (length + opener.length) % 3 != 0 || length % 3 == 0)

/-- Encloses a forest in matched marks.  Both lists begin with the marks next to the forest.  Pairs
come first, so a single mark is left for the outermost emphasis. -/
def enclose (char : Char) (forest : List Tree) : List Mark → List Mark → List Tree
  | _ :: first :: opening, _ :: last :: closing =>
    let tag := if char == '~' then Tag.strikethrough else .strong
    enclose char [.node tag ⟨first.span.start, last.span.stop⟩ forest] opening closing
  | [opening], [closing] =>
    let tag := if char == '~' then Tag.strikethrough else .emphasis
    [.node tag ⟨opening.span.start, closing.span.stop⟩ forest]
  | _, _ => forest

/-- Closes what a run can close.  `marks` are the marks of it without a partner, and `fuel` bounds
their number.  Gives the marks that are left. -/
def close (run : Run) : Nat → List Mark → State → List Mark × State
  | 0, marks, state => (marks, state)
  | fuel + 1, marks, state =>
    if marks.isEmpty then ([], state)
    else
      let depth := state.openers.length
      let visible :=
        if run.char == '~' then state.openers.take (depth - state.hidden) else state.openers
      match visible.findIdx? (partners run run.marks.length) with
      | none =>
        (marks, if run.char == '~' then { state with hidden := depth } else state)
      | some index =>
        match state.openers.drop index with
        | [] => (marks, state)
        | opener :: outer =>
          let count := min marks.length opener.marks.length
          let kept := opener.marks.take (opener.marks.length - count)
          let inner := (giveUp state.done (state.openers.take index)).reverse
          let tree := enclose run.char inner
            (opener.marks.drop (opener.marks.length - count)).reverse (marks.take count)
          let hidden := min state.hidden outer.length
          let state : State :=
            if kept.isEmpty then ⟨tree ++ opener.before, outer, hidden⟩
            else ⟨tree, { opener with marks := kept } :: outer, hidden⟩
          close run fuel (marks.drop count) state

/-- Reads a run: closes what it can, then leaves it open or shows what is left of it. -/
def readRun (run : Run) (state : State) : State :=
  let (marks, state) :=
    if run.canClose then close run run.marks.length run.marks state else (run.marks, state)
  if marks.isEmpty then state
  else if run.canOpen then
    let opener : Opener :=
      ⟨run.char, marks, run.marks.length, run.canOpen && run.canClose, state.done⟩
    { state with done := [], openers := opener :: state.openers }
  else { state with done := behind state.done marks }

/-- Reads a strand. -/
def read (state : State) (strand : Strand) : State :=
  match strand with
  | .tree tree => state.push tree
  | .run run => readRun run state
  | .escapedBreak span => state.push (.leaf .hardBreak span)

/-- The trees of everything read. -/
def State.finish (state : State) : List Tree :=
  (giveUp state.done state.openers).reverse

end Emphasis

namespace Strand

/-- Whether a strand is a run. -/
def isRun : Strand → Bool
  | .run _ => true
  | _ => false

/-- A backslash that ends the text of a link is shown, if there are marks in that text. -/
def showFinalBackslash (strands : List Strand) : List Strand :=
  match strands.getLast? with
  | some (.escapedBreak span) =>
    if strands.any isRun then strands.dropLast ++ [.tree (.leaf (.text "\\") span)] else strands
  | _ => strands

/-- Finds the emphasis among strands. -/
def trees (strands : List Strand) : List Tree :=
  ((showFinalBackslash strands).foldl Emphasis.read ⟨[], [], 0⟩).finish

end Strand

end MarkdownPager.Markdown
