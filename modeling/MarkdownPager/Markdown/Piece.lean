import MarkdownPager.Document.Block
import MarkdownPager.Markdown.Entity
import MarkdownPager.Markdown.LineEnd
import MarkdownPager.Text.Blank
import MarkdownPager.Text.Bytes
import MarkdownPager.Text.Punctuation

/-!
# Pieces of running text

The text of a paragraph or heading stands on lines that may begin with the marks of quotes and with
the indentation of list items.  `RunningText.places` leaves these out and keeps for every character
its offset.

`RunningText.pieces` cuts the text at every mark that may matter for its markup: runs of `*`, `_`
and `~` that can open or close something, backticks, brackets, angle brackets, escapes, character
references and line ends.  A piece keeps the text from its beginning to the end of the paragraph,
so that whatever it opens can be looked for.
-/

namespace MarkdownPager.Markdown

/-- A character of running text. -/
structure Place where
  offset : Nat
  char : Char
  /-- The text behind the character, marks at line beginnings included. -/
  behind : List Char

namespace Place

/-- The offset behind the character. -/
def stop (place : Place) : Nat := place.offset + place.char.utf8Size

/-- The characters at some places. -/
def chars (places : List Place) : List Char := places.map (·.char)

/-- The places before an offset. -/
def before (offset : Nat) (places : List Place) : List Place :=
  places.takeWhile (·.offset < offset)

/-- The places from an offset on. -/
def since (offset : Nat) (places : List Place) : List Place :=
  places.dropWhile (·.offset < offset)

end Place

/-- Text that has markup in it. -/
structure RunningText where
  start : Nat
  /-- The text as it stands in the source. -/
  source : List Char
  /-- What the lines begin with that is not part of the text, in order. -/
  gaps : List Span
  /-- Whether a backslash at the end of the text stands before a further line. -/
  continued : Bool
  /-- Where the last piece has to end, if something behind the text closes it. -/
  limit : Option Nat
  deriving Inhabited

/-- The characters of a text outside the gaps. -/
def placesFrom (offset : Nat) (gaps : List Span) : List Char → List Place
  | [] => []
  | c :: cs =>
    let gaps := gaps.dropWhile (·.stop ≤ offset)
    let rest := placesFrom (offset + c.utf8Size) gaps cs
    match gaps with
    | gap :: _ => if gap.start ≤ offset then rest else ⟨offset, c, cs⟩ :: rest
    | [] => ⟨offset, c, cs⟩ :: rest

/-- The characters of running text. -/
def RunningText.places (text : RunningText) : List Place :=
  placesFrom text.start text.gaps text.source

/-- What a piece may turn out to be. -/
inductive PieceKind where
  | text
  /-- Characters that open or close emphasis or the like. -/
  | run (mark : Char) (count : Nat) (canOpen canClose : Bool)
  /-- Backticks; an escaped run has a backslash before it. -/
  | ticks (count : Nat) (escaped : Bool)
  | angle
  | openBracket (image : Bool)
  | closeBracket
  /-- A character reference, with what it stands for. -/
  | entity (value : List Char)
  | softBreak
  /-- A line end after two blanks or a backslash. -/
  | hardBreak (backslash : Bool)

/-- A piece of running text. -/
structure Piece where
  kind : PieceKind
  start : Nat
  stop : Nat
  /-- The text from the beginning of the piece on. -/
  rest : List Place

namespace Piece

/-- The text of a piece. -/
def chars (piece : Piece) : List Char := Place.chars (Place.before piece.stop piece.rest)

/-- The text behind a piece. -/
def behind (piece : Piece) : List Place := Place.since piece.stop piece.rest

/-- The span of a piece. -/
def span (piece : Piece) : Span := ⟨piece.start, piece.stop⟩

/-- The part of a piece from an offset on. -/
def since (offset : Nat) (piece : Piece) : Piece :=
  if piece.start < offset then
    { piece with start := offset, rest := Place.since offset piece.rest }
  else piece

end Piece

/-- A run of marks with the characters around it. -/
structure RunPlace where
  mark : Char
  count : Nat
  /-- The character before, unless the run begins its line. -/
  before : Option Char
  /-- The character behind, unless the text ends there. -/
  behind : Option Char

namespace RunPlace

/-- Whether the run can open something. -/
def canOpen (run : RunPlace) : Bool :=
  match run.behind with
  | none => false
  | some next =>
    !Text.isBlank next &&
      match run.before with
      | none => true
      | some previous =>
        (run.mark == '*' && !Text.isPunctuation next) ||
          (run.mark == '~' && 1 < run.count) ||
          (run.mark == '~' && previous == '~' && !Text.isPunctuation next) ||
          Text.isBlank previous || Text.isPunctuation previous

/-- Whether the run can close something. -/
def canClose (run : RunPlace) : Bool :=
  match run.before with
  | none => false
  | some previous =>
    !Text.isBlank previous &&
      match run.behind with
      | none => true
      | some next =>
        ((run.mark == '*' || (run.mark == '~' && 1 < run.count)) &&
            !Text.isPunctuation previous) ||
          (run.mark == '~' && previous == '~') ||
          Text.isBlank next || Text.isPunctuation next

/-- Whether the run is markup: it can open or close, and has at most two tildes. -/
def isMarkup (run : RunPlace) : Bool :=
  (run.canOpen || run.canClose) && (run.mark != '~' || run.count ≤ 2)

end RunPlace

namespace RunningText

/-- Where the text of a line ends, and the line end as a piece, unless the text ends with the
line. -/
structure LineShape where
  stop : Nat
  lineBreak : Option Piece

/-- The number of characters with a property at the end. -/
def countTrailing (p : Char → Bool) (places : List Place) : Nat :=
  (places.reverse.takeWhile (p ·.char)).length

/-- The offset behind the first `n` of the places. -/
def offsetAfter (n : Nat) (places : List Place) : Nat :=
  match places.drop n with
  | place :: _ => place.offset
  | [] => (places.getLast?.map (·.stop)).getD 0

/-- The number of characters in a line end. -/
def lineEndLength (places : List Place) : Nat :=
  match places with
  | ⟨_, '\r', _⟩ :: ⟨_, '\n', _⟩ :: _ => 2
  | _ => 1

/-- The shape of a line, from the first character of its text on. -/
def lineShape (continued : Bool) (places : List Place) : LineShape :=
  let body := places.takeWhile (!isLineEnd ·.char)
  let lineEnd := places.drop body.length
  let width := lineEndLength lineEnd
  let next := lineEnd.drop width
  let backslashes := countTrailing (· == '\\') body
  let blanks := countTrailing isSpace body
  let byBackslash := backslashes % 2 == 1 && (continued || !next.isEmpty) && !lineEnd.isEmpty
  let dropped := if byBackslash then 1 else blanks
  let stop := offsetAfter (body.length - dropped) places
  let kind : PieceKind :=
    if byBackslash then .hardBreak true else if 2 ≤ blanks then .hardBreak false else .softBreak
  let lineBreak : Piece := ⟨kind, stop, offsetAfter width (lineEnd.take width), lineEnd⟩
  ⟨stop, if next.isEmpty then none else some lineBreak⟩

/-- How far the cutting has come in a line. -/
inductive Stage where
  /-- Among the blanks at the beginning. -/
  | lineBegin
  /-- In the text.  `begun` is where the text not cut off yet begins, and the next `skip` characters
  belong to a piece already. -/
  | inside (shape : LineShape) (begun : List Place) (previous : Option Char) (skip : Nat)
  /-- Behind the text. -/
  | lineEnd

/-- The text begun but not cut off, up to an offset. -/
def textPiece (begun : List Place) (stop : Nat) : List Piece :=
  match begun with
  | [] => []
  | place :: _ => if place.offset < stop then [⟨.text, place.offset, stop, begun⟩] else []

/-- Cuts off the text begun and a piece of `count` characters behind it. -/
def cut (shape : LineShape) (begun : List Place) (kind : PieceKind) (count : Nat) (place : Place)
    (rest : List Place) : List Piece × Stage :=
  let next := rest.drop (count - 1)
  let stop := offsetAfter count (place :: rest)
  (textPiece begun place.offset ++ [⟨kind, place.offset, stop, place :: rest⟩],
    .inside shape next (some place.char) (count - 1))

/-- Reads one character of the text of a line. -/
def readInside (shape : LineShape) (begun : List Place) (previous : Option Char) (place : Place)
    (rest : List Place) : List Piece × Stage :=
  let goOn (skip : Nat) : List Piece × Stage :=
    ([], .inside shape begun (some place.char) skip)
  let cut (kind : PieceKind) (count : Nat) : List Piece × Stage :=
    cut shape begun kind count place rest
  match place.char with
  | '\\' =>
    match rest with
    | [] => goOn 0
    | next :: _ =>
      if Text.isAsciiPunctuation next.char then
        let text := textPiece begun place.offset
        if next.char == '`' then
          let count := countLeading '`' place.behind
          let behind := rest.drop count
          (text ++ [⟨.ticks count true, next.offset, offsetAfter count rest, rest⟩],
            .inside shape behind (some place.char) count)
        else (text, .inside shape rest (some place.char) 1)
      else goOn 0
  | '`' =>
    let count := countLeading '`' place.behind + 1
    cut (.ticks count false) count
  | '<' => if place.behind.head? == some '\\' then goOn 0 else cut .angle 1
  | '!' => if place.behind.head? == some '[' then cut (.openBracket true) 2 else goOn 0
  | '[' => cut (.openBracket false) 1
  | ']' => cut .closeBracket 1
  | '&' =>
    match reference? place.behind with
    | some (value, behind) => cut (.entity value) (taken place.behind behind + 1)
    | none => goOn 0
  | c =>
    if c == '*' || c == '_' || c == '~' then
      let count := countLeading c place.behind + 1
      let run : RunPlace := ⟨c, count, previous, (rest.drop (count - 1)).head?.map (·.char)⟩
      if run.isMarkup then cut (.run c count run.canOpen run.canClose) count
      else goOn (count - 1)
    else goOn 0

/-- Whether a line end is complete with this character. -/
def completesLine (place : Place) : Bool :=
  isLineEnd place.char && !(place.char == '\r' && place.behind.head? == some '\n')

/-- The stage behind a character that is not part of the text of its line. -/
def stageBehind (place : Place) : Stage :=
  if completesLine place then .lineBegin else .lineEnd

/-- Reads one character: the pieces it completes, and the stage behind it. -/
def read (continued : Bool) (stage : Stage) (place : Place) (rest : List Place) :
    List Piece × Stage :=
  let inside (shape : LineShape) (begun : List Place) (previous : Option Char) (skip : Nat) :
      List Piece × Stage :=
    if shape.stop ≤ place.offset then
      (textPiece begun shape.stop ++ shape.lineBreak.toList, stageBehind place)
    else match skip with
      | skip + 1 => ([], .inside shape begun (some place.char) skip)
      | 0 => readInside shape begun previous place rest
  match stage with
  | .lineBegin =>
    if place.char == ' ' || place.char == '\t' then ([], .lineBegin)
    else inside (lineShape continued (place :: rest)) (place :: rest) none 0
  | .inside shape begun previous skip => inside shape begun previous skip
  | .lineEnd => ([], stageBehind place)

/-- The pieces from a stage on. -/
def piecesFrom (continued : Bool) (stage : Stage) : List Place → List Piece
  | [] =>
    match stage with
    | .inside shape begun _ _ => textPiece begun shape.stop
    | _ => []
  | place :: rest =>
    let (pieces, stage) := read continued stage place rest
    pieces ++ piecesFrom continued stage rest

/-- Moves the end of the last piece. -/
def limitLast (limit : Nat) (pieces : List Piece) : List Piece :=
  match pieces.getLast? with
  | none => []
  | some last =>
    pieces.dropLast ++ if last.start < limit then [{ last with stop := limit }] else []

/-- The pieces of running text. -/
def pieces (text : RunningText) : List Piece :=
  let pieces := piecesFrom text.continued .lineBegin text.places
  match text.limit with
  | none => pieces
  | some limit => limitLast limit pieces

end RunningText

end MarkdownPager.Markdown
