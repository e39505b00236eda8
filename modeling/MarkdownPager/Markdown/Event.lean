import MarkdownPager.Document.Block

/-!
# Events

Reading a Markdown text gives a sequence of events in the order of the text: markup opens and
closes around other events, and leaves stand for themselves.  Each event carries the span of the
text that it stands for; an opening and its closing carry the span of everything from one to the
other.

A sequence that a text can give is the sequence of a forest: `Tree.events` and `Tree.eventsOf`
spell a tree and a forest out.
-/

namespace MarkdownPager.Markdown

/-- Markup that encloses other events. -/
inductive Tag where
  | paragraph
  | heading (level : Nat)
  /-- A code block; one without a fence has no info string. -/
  | code (info : Option String)
  /-- A list; one that is not ordered has no start number. -/
  | list (start : Option UInt64)
  | item
  | quote
  | emphasis
  | strong
  | strikethrough
  | link (url : String)
  | image (url : String)
  /-- A table, an HTML block or a footnote definition. -/
  | other
  deriving DecidableEq, Repr, Inhabited

/-- An event that encloses nothing. -/
inductive Leaf where
  | text (text : String)
  | code (text : String)
  | inlineHtml (text : String)
  | html (text : String)
  | footnoteRef (name : String)
  | softBreak
  | hardBreak
  | rule
  | taskMarker (done : Bool)
  deriving DecidableEq, Repr, Inhabited

/-- A step in the sequence that a text is read as. -/
inductive Event where
  | opening (tag : Tag)
  | closing
  | leaf (leaf : Leaf)
  deriving DecidableEq, Repr, Inhabited

/-- Events with the spans they stand for. -/
abbrev Events := List (Event × Span)

/-- What reads a text as Markdown. -/
abbrev Reader := String → Events

/-- Events with their nesting made explicit. -/
inductive Tree where
  | leaf (leaf : Leaf) (span : Span)
  | node (tag : Tag) (span : Span) (children : List Tree)
  deriving Repr, Inhabited

namespace Tree

/-- The span that a tree stands for. -/
protected def span : Tree → Span
  | .leaf _ span | .node _ span _ => span

mutual

/-- The events of a tree. -/
protected def events : Tree → Events
  | .leaf content span => [(.leaf content, span)]
  | .node tag span children => (.opening tag, span) :: eventsOf children ++ [(.closing, span)]

/-- The events of a forest, tree by tree. -/
def eventsOf : List Tree → Events
  | [] => []
  | tree :: rest => tree.events ++ eventsOf rest

end

end Tree

end MarkdownPager.Markdown
