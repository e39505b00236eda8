import MarkdownPager.Document.Basic
import MarkdownPager.Markdown.Event
import MarkdownPager.Text.Bytes
import MarkdownPager.Text.Lines

/-!
# Nodes from events

The readers of this module turn a sequence of Markdown events into nodes.  Each takes what belongs
to it from the front of the sequence and gives the rest back: a reader of a container stops behind
the first closing that is not taken by a container inside.

Items of tight lists have inline events without a paragraph around them.  A maximal run of such
events makes a paragraph of its own.

A node is numbered by the events behind the one that begins it, from `firstId` on, so no two nodes
of a sequence have the same identity.  `fuel` bounds the number of events.
-/

namespace MarkdownPager

open Markdown (Event Events Leaf Tag)

/-- What the readers need besides the events. -/
structure EventContext where
  source : String
  /-- The source in bytes. -/
  bytes : ByteArray
  /-- The first identity that no other node has. -/
  firstId : Nat

namespace EventContext

/-- The context of a source. -/
def ofSource (firstId : Nat) (source : String) : EventContext := ⟨source, source.toUTF8, firstId⟩

/-- The end of a span without the line ends before it; the span begins at `start`. -/
def trimStop (bytes : ByteArray) (start : Nat) : Nat → Nat
  | 0 => 0
  | stop + 1 =>
    if start ≤ stop && (bytes[stop]? == some 10 || bytes[stop]? == some 13) then
      trimStop bytes start stop
    else stop + 1

/-- A span inside the source, without the line ends at its end. -/
def trim (context : EventContext) (span : Span) : Span :=
  let size := context.bytes.size
  let start := min span.start size
  ⟨start, trimStop context.bytes start (max (min span.stop size) start)⟩

/-- A node begun by an event with the events `rest` behind it. -/
def node (context : EventContext) (rest : Events) (span : Span) (block : Block) : Node :=
  ⟨⟨context.firstId + rest.length⟩, context.trim span, block⟩

/-- A node that shows the source it stands for. -/
def rawNode (context : EventContext) (rest : Events) (span : Span) : Node :=
  let span := context.trim span
  context.node rest span (.raw ((Text.slice? context.source span.start span.stop).getD ""))

end EventContext

namespace Markdown.Tag

/-- Whether a tag marks up running text. -/
def isInline : Tag → Bool
  | .emphasis | .strong | .strikethrough | .link _ | .image _ => true
  | _ => false

end Markdown.Tag

namespace Markdown.Leaf

/-- What a leaf is in running text. -/
def inline? : Leaf → Option Inline
  | .text s => some (.text s)
  | .code s => some (.code s)
  | .inlineHtml s | .html s => some (.html s)
  | .footnoteRef name => some (.footnoteRef name)
  | .softBreak => some .softBreak
  | .hardBreak => some .hardBreak
  | .taskMarker done => some (.taskMarker done)
  | .rule => none

/-- Whether a leaf stands in running text only. -/
def isInline : Leaf → Bool
  | .html _ | .rule => false
  | _ => true

end Markdown.Leaf

namespace Markdown.Event

/-- Whether an event belongs to running text. -/
def isInline : Event → Bool
  | .opening tag => tag.isInline
  | .closing => false
  | .leaf content => content.isInline

end Markdown.Event

namespace OfEvents

/-- The events behind the closing of a container, `depth` containers inside it being open. -/
def skipContainer (depth : Nat) : Events → Events
  | [] => []
  | (.opening _, _) :: rest => skipContainer (depth + 1) rest
  | (.closing, _) :: rest =>
    match depth with
    | 0 => rest
    | depth + 1 => skipContainer depth rest
  | (.leaf _, _) :: rest => skipContainer depth rest

/-- The texts up to the first closing, and the events behind it. -/
def codeText : Events → String × Events
  | [] => ("", [])
  | (.closing, _) :: rest => ("", rest)
  | (.leaf (.text text), _) :: rest =>
    let (more, rest) := codeText rest
    (text ++ more, rest)
  | _ :: rest => codeText rest

/-- An inline with its children.  Nothing for a tag that is none of running text. -/
def markedUp (tag : Tag) (children : List Inline) : Option Inline :=
  match tag with
  | .emphasis => some (.emphasis children)
  | .strong => some (.strong children)
  | .strikethrough => some (.strikethrough children)
  | .link url => some (.link url children)
  | .image url => some (.image url (Inline.plainText children))
  | _ => none

/-- The inline that an event begins, and the events behind it; `children` reads up to the closing
of the event. -/
def inlineWith (children : Events → List Inline × Events) (event : Event) (rest : Events) :
    Option Inline × Events :=
  match event with
  | .closing => (none, rest)
  | .leaf leaf => (leaf.inline?, rest)
  | .opening tag =>
    if tag.isInline then
      let (inlines, rest) := children rest
      (markedUp tag inlines, rest)
    else (none, skipContainer 0 rest)

/-- The inlines up to the first closing, and the events behind it. -/
def inlines : Nat → Events → List Inline × Events
  | 0, events => ([], events)
  | _ + 1, [] => ([], [])
  | fuel + 1, (event, _) :: rest =>
    if event = .closing then ([], rest)
    else
      let (first, rest) := inlineWith (inlines fuel) event rest
      let (more, rest) := inlines fuel rest
      (first.toList ++ more, rest)

/-- The inlines at the front of a sequence with the span they cover, and the events behind them. -/
def inlineRun : Nat → Events → List Inline × Option Span × Events
  | 0, events => ([], none, events)
  | _ + 1, [] => ([], none, [])
  | fuel + 1, (event, span) :: rest =>
    if event.isInline then
      let (first, rest) := inlineWith (inlines fuel) event rest
      let (more, covered, rest) := inlineRun fuel rest
      (first.toList ++ more, some (covered.elim span span.union), rest)
    else ([], none, (event, span) :: rest)

/-- The lines of a code block. -/
def codeLines (text : String) : List String :=
  Text.lines (Text.dropFinalNewline text)

/-- The node of a container that was just opened, and the events behind it; the arguments read what
can stand in a container. -/
def container (context : EventContext) (inlines : Events → List Inline × Events)
    (nodes : Events → List Node × Events) (items : Events → List (List Node) × Events) (tag : Tag)
    (span : Span) (rest : Events) : Node × Events :=
  match tag with
  | .paragraph =>
    let (content, behind) := inlines rest
    (context.node rest span (.paragraph content), behind)
  | .heading level =>
    let (content, behind) := inlines rest
    (context.node rest span (.heading level content), behind)
  | .code info =>
    let (text, behind) := codeText rest
    (context.node rest span (.code (Text.trim (info.getD "")) (codeLines text)), behind)
  | .list start =>
    let (content, behind) := items rest
    (context.node rest span (.list start.isSome (start.getD 1) content), behind)
  | .quote =>
    let (content, behind) := nodes rest
    (context.node rest span (.quote content), behind)
  | _ => (context.rawNode rest span, skipContainer 0 rest)

mutual

/-- The nodes up to the first closing, and the events behind it. -/
def nodes (context : EventContext) : Nat → Events → List Node × Events
  | 0, events => ([], events)
  | _ + 1, [] => ([], [])
  | fuel + 1, (event, span) :: rest =>
    if event.isInline then
      let (inlines, covered, behind) := inlineRun (fuel + 1) ((event, span) :: rest)
      let first := covered.map fun span => context.node rest span (.paragraph inlines)
      let (more, behind) := nodes context fuel behind
      (first.toList ++ more, behind)
    else
      match event with
      | .closing => ([], rest)
      | .opening tag =>
        let (first, behind) :=
          container context (inlines fuel) (nodes context fuel) (items context fuel) tag span rest
        let (more, behind) := nodes context fuel behind
        (first :: more, behind)
      | .leaf .rule =>
        let (more, behind) := nodes context fuel rest
        (context.node rest span .rule :: more, behind)
      | .leaf (.html text) =>
        let (more, behind) := nodes context fuel rest
        (context.node rest span (.raw text) :: more, behind)
      | .leaf _ => nodes context fuel rest

/-- The items up to the first closing, and the events behind it. -/
def items (context : EventContext) : Nat → Events → List (List Node) × Events
  | 0, events => ([], events)
  | _ + 1, [] => ([], [])
  | fuel + 1, (event, _) :: rest =>
    match event with
    | .opening .item =>
      let (first, behind) := nodes context fuel rest
      let (more, behind) := items context fuel behind
      (first :: more, behind)
    | .closing => ([], rest)
    | _ => items context fuel rest

end

end OfEvents

/-- The nodes of a sequence of events. -/
def Node.ofEvents (context : EventContext) (events : Events) : List Node :=
  (OfEvents.nodes context (events.length + 1) events).1

end MarkdownPager
