import MarkdownPager.Markdown.Autolink
import MarkdownPager.Markdown.Emphasis
import MarkdownPager.Markdown.Html
import MarkdownPager.Markdown.Link
import MarkdownPager.Markdown.Piece

/-!
# Links, code and HTML in running text

The pieces of a text are read from left to right.  Backticks look for a run of the same length,
angle brackets for an address or a tag, and a closing bracket for the opening one.  What comes
first wins: the pieces inside a code span or tag are not read again.

A link has a destination in parentheses behind it, or its label is defined somewhere in the
document.  Inside a link there is no other link, so a link takes away the meaning of all brackets
opened before it, except those of images.

What a label stands for is written out wherever the label is used, so that a short text could grow
without bounds.  There is a budget for it, and when it is used up no label means anything any more.
-/

namespace MarkdownPager.Markdown

/-- What a label stands for. -/
structure Meaning where
  url : List Char
  /-- The title, empty if there is none. -/
  title : List Char
  deriving Inhabited

/-- The number of bytes that are written out for a label. -/
def Meaning.size (meaning : Meaning) : Nat :=
  Text.byteLength meaning.url + Text.byteLength meaning.title

/-- What a document defines: what labels stand for, and which footnotes there are.  Of two
definitions of one label the one that comes first in the list counts. -/
structure Definitions where
  links : List (List Char × Meaning)
  footnotes : List (List Char)
  deriving Inhabited

namespace Definitions

/-- No definitions. -/
def empty : Definitions := ⟨[], []⟩

/-- What a label stands for. -/
def meaning? (definitions : Definitions) (label : List Char) : Option Meaning :=
  definitions.links.lookup (Link.labelKey label)

/-- Whether there is a footnote of a name. -/
def hasFootnote (definitions : Definitions) (name : List Char) : Bool :=
  definitions.footnotes.contains (Link.labelKey name)

end Definitions

namespace Link

/-- A label in running text. -/
inductive Label where
  | link (label : List Char)
  | footnote (name : List Char)

/-- Reads a label in brackets: what it names, and what follows. -/
def label? (cs : List Char) : Option (Label × List Char) :=
  match cs with
  | '[' :: cs =>
    let footnote := match cs with
      | '^' :: name => if name.head? == some ']' then none else labelRest? noLineEnd name
      | _ => none
    match footnote with
    | some (name, rest) => some (.footnote name, rest)
    | none => (labelRest? some cs).map fun (label, rest) => (.link label, rest)
  | _ => none

/-- What follows a text in brackets. -/
inductive Reference where
  /-- Another label, and the offset behind it. -/
  | full (label : List Char) (stop : Nat)
  /-- Empty brackets, and the offset behind them. -/
  | collapsed (stop : Nat)
  | shortcut

/-- The reference that begins with a piece. -/
def referenceAt (next : Option Piece) : Reference :=
  match next with
  | none => .shortcut
  | some piece =>
    let chars := Place.chars piece.rest
    match chars with
    | '[' :: ']' :: _ => .collapsed (piece.start + 2)
    | _ =>
      match label? chars with
      | some (.link label, rest) =>
        .full label (RunningText.offsetAfter (taken chars rest) piece.rest)
      | _ => .shortcut

end Link

/-- An opening bracket that has no partner yet. -/
structure OpenBracket where
  piece : Piece
  image : Bool
  /-- Whether it can still open a link. -/
  active : Bool
  /-- What stands between it and the bracket opened before it, the last first. -/
  before : List Strand

/-- How far the reading of pieces has come. -/
structure Reading where
  /-- What stands behind the innermost open bracket, the last first. -/
  done : List Strand
  /-- The open brackets, the innermost first. -/
  openers : List OpenBracket
  /-- Offsets of brackets that close a label already looked up. -/
  triedClosers : List Nat
  /-- Pieces before this offset are read already. -/
  resume : Nat
  /-- How many bytes may still be written out for labels. -/
  budget : Nat

namespace Piece

/-- A piece as text. -/
def asText (piece : Piece) : Strand :=
  .tree (.leaf (.text (.ofList piece.chars)) piece.span)

/-- The marks of a run of `count` characters.  The last one takes what is left of the piece. -/
def marks (piece : Piece) (char : Char) (count : Nat) : List Mark :=
  (List.range count).map fun i =>
    let start := piece.start + i
    if i + 1 = count then ⟨.ofList (piece.chars.drop i), ⟨start, piece.stop⟩⟩
    else ⟨.singleton char, ⟨start, start + 1⟩⟩

end Piece

namespace Reading

/-- Nothing read. -/
def start (budget : Nat) : Reading := ⟨[], [], [], 0, budget⟩

/-- A strand behind everything read. -/
def push (strand : Strand) (reading : Reading) : Reading :=
  { reading with done := strand :: reading.done }

/-- A piece as text behind everything read. -/
def text (piece : Piece) (reading : Reading) : Reading := reading.push piece.asText

/-- A leaf that takes the text up to `stop`. -/
def leaf (leaf : Leaf) (start stop : Nat) (reading : Reading) : Reading :=
  { reading.push (.tree (.leaf leaf ⟨start, stop⟩)) with resume := stop }

/-- What stands behind an open bracket when the brackets opened since then are shown as text. -/
def giveUp (done : List Strand) : List OpenBracket → List Strand
  | [] => done
  | opener :: outer => giveUp (done ++ opener.piece.asText :: opener.before) outer

/-- Shows the innermost open bracket as text. -/
def giveUpLast (reading : Reading) : Reading :=
  match reading.openers with
  | [] => reading
  | opener :: outer =>
    { reading with done := giveUp reading.done [opener], openers := outer }

/-- Closes an open bracket as a link or image that reaches up to `stop`. -/
def link (opener : OpenBracket) (outer : List OpenBracket) (url : String) (stop resume : Nat)
    (reading : Reading) : Reading :=
  let tag := if opener.image then Tag.image url else .link url
  let tree := Tree.node tag ⟨opener.piece.start, stop⟩ (Strand.trees reading.done.reverse)
  let outer := if opener.image then outer
    else outer.map fun other => { other with active := other.active && other.image }
  { reading with done := .tree tree :: opener.before, openers := outer, resume }

/-- Closes an open bracket as a reference to a footnote. -/
def footnote (opener : OpenBracket) (outer : List OpenBracket) (name : List Char)
    (closer : Piece) (reading : Reading) : Reading :=
  let start := opener.piece.start
  let reference (start : Nat) : Strand :=
    .tree (.leaf (.footnoteRef (.ofList name)) ⟨start, closer.stop⟩)
  let strands :=
    if opener.image then
      [reference (start + 1), .tree (.leaf (.text "!") ⟨start, start + 1⟩)]
    else [reference start]
  { reading with
    done := giveUp (strands ++ opener.before) outer
    openers := []
    resume := closer.stop }

/-- Looks up where a label points to, and charges what is written out for it.  The last label that
the budget is good for may be longer than what is left. -/
def lookUp? (definitions : Definitions) (label : List Char) (reading : Reading) :
    Option (String × Reading) :=
  if reading.budget = 0 then none
  else
    (definitions.meaning? label).map fun meaning =>
      (.ofList meaning.url, { reading with budget := reading.budget - meaning.size })

/-- Reads a closing bracket whose own label may be defined. -/
def ownLabel (definitions : Definitions) (opener : OpenBracket) (outer : List OpenBracket)
    (closer : Piece) (resume : Nat) (reading : Reading) : Reading :=
  let places := if opener.image then opener.piece.rest.drop 1 else opener.piece.rest
  let plain := reading.giveUpLast.text closer
  match Link.label? (Place.chars (Place.before closer.stop places)) with
  | some (.footnote name, []) =>
    if definitions.hasFootnote name then reading.footnote opener outer name closer else plain
  | some (.link label, []) =>
    match reading.lookUp? definitions label with
    | some (url, reading) => reading.link opener outer url closer.stop resume
    | none => plain
  | _ => plain

/-- Reads a closing bracket; `next` is the piece behind it. -/
def closeBracket (definitions : Definitions) (closer : Piece) (next : Option Piece)
    (reading : Reading) : Reading :=
  match reading.openers with
  | [] => reading.text closer
  | opener :: outer =>
    let plain := reading.giveUpLast.text closer
    if !opener.active then plain
    else
      let behind := closer.behind
      let chars := Place.chars behind
      match Link.target? chars with
      | some (target, rest) =>
        let stop := RunningText.offsetAfter (taken chars rest) behind
        reading.link opener outer (.ofList target.url) stop stop
      | none =>
        let tried := reading.triedClosers.contains closer.start
        match Link.referenceAt next with
        | .full label stop =>
          let reading := { reading with triedClosers := (stop - 1) :: reading.triedClosers }
          match reading.lookUp? definitions label with
          | some (url, reading) => reading.link opener outer url stop stop
          | none => reading.giveUpLast.text closer
        | .collapsed stop =>
          if tried then plain else reading.ownLabel definitions opener outer closer stop
        | .shortcut =>
          if tried then plain else reading.ownLabel definitions opener outer closer closer.stop

/-- The text of a code span: line ends are spaces, and one space is taken from both ends unless
there are only spaces. -/
def codeText (chars : List Char) : List Char :=
  let chars := chars.map fun c => if isLineEnd c then ' ' else c
  if chars.head? == some ' ' && chars.getLast? == some ' ' && chars.any (· != ' ') then
    (chars.drop 1).dropLast
  else chars

/-- Whether a piece closes a code span opened by `count` backticks. -/
def closesCode (count : Nat) (piece : Piece) : Bool :=
  match piece.kind with
  | .ticks n _ => n == count
  | _ => false

/-- Reads backticks. -/
def ticks (piece : Piece) (count : Nat) (escaped : Bool) (later : List Piece)
    (reading : Reading) : Reading :=
  let count := if escaped then count - 1 else count
  match if count = 0 then none else later.find? (closesCode count) with
  | none => reading.text piece
  | some closer =>
    let code := Leaf.code (.ofList (codeText (Place.chars (Place.before closer.start piece.behind))))
    if escaped then
      let tick := Strand.tree (.leaf (.text "`") ⟨piece.start, piece.start + 1⟩)
      (reading.push tick).leaf code (piece.start + 1) closer.stop
    else reading.leaf code piece.start closer.stop

/-- Reads an opening angle bracket. -/
def angle (piece : Piece) (reading : Reading) : Reading :=
  let behind := piece.behind
  let source := (piece.rest.head?.map (·.behind)).getD []
  let raw (rest : List Char) : Reading :=
    let html := '<' :: source.take (taken source rest)
    reading.leaf (.inlineHtml (.ofList html)) piece.start (piece.start + Text.byteLength html)
  match autolink? source with
  | some (address, _) =>
    let address := String.ofList address
    let stop := piece.stop + address.utf8ByteSize
    let name := Tree.leaf (.text address) ⟨piece.stop, stop⟩
    { reading.push (.tree (.node (.link address) ⟨piece.start, stop + 1⟩ [name])) with
      resume := stop + 1 }
  | none =>
    match Html.special? source with
    | some rest => raw rest
    | none =>
      let chars := Place.chars behind
      match Html.tag? true chars with
      | some rest =>
        let count := taken chars rest
        reading.leaf (.inlineHtml (.ofList ('<' :: chars.take count))) piece.start
          (RunningText.offsetAfter count behind)
      | none => reading.text piece

/-- Reads a piece; `later` are the pieces behind it. -/
def read (definitions : Definitions) (piece : Piece) (later : List Piece) (reading : Reading) :
    Reading :=
  match piece.kind with
  | .text => reading.text piece
  | .run mark count canOpen canClose =>
    reading.push (.run ⟨mark, canOpen, canClose, piece.marks mark count⟩)
  | .ticks count escaped => reading.ticks piece count escaped later
  | .angle => reading.angle piece
  | .openBracket image =>
    { reading with done := [], openers := ⟨piece, image, true, reading.done⟩ :: reading.openers }
  | .closeBracket => reading.closeBracket definitions piece later.head?
  | .entity value => reading.push (.tree (.leaf (.text (.ofList value)) piece.span))
  | .softBreak => reading.push (.tree (.leaf .softBreak piece.span))
  | .hardBreak true => reading.push (.escapedBreak piece.span)
  | .hardBreak false => reading.push (.tree (.leaf .hardBreak piece.span))

/-- Reads pieces, leaving out those that something before them has taken already. -/
def readAll (definitions : Definitions) (reading : Reading) : List Piece → Reading
  | [] => reading
  | piece :: later =>
    if piece.stop ≤ reading.resume then readAll definitions reading later
    else
      readAll definitions (reading.read definitions (piece.since reading.resume) later) later

/-- The strands of everything read. -/
def strands (reading : Reading) : List Strand :=
  (giveUp reading.done reading.openers).reverse

end Reading

/-- The markup of pieces, and what they leave of the budget for labels. -/
def treesOfPieces (definitions : Definitions) (budget : Nat) (pieces : List Piece) :
    List Tree × Nat :=
  let reading := (Reading.start budget).readAll definitions pieces
  (Strand.trees reading.strands, reading.budget)

end MarkdownPager.Markdown
