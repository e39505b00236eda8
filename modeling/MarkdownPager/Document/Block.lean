import MarkdownPager.Document.Inline

/-!
# Blocks and nodes

A document is a list of nodes.  A node is a block with the byte span it comes from and with an
identity of its own: two nodes of one process never have the same `NodeId`, not even when they are
read from the same text.  Lists and quotes hold further nodes.
-/

namespace MarkdownPager

/-- A half-open range of byte offsets.  Nothing forces `start ≤ stop`. -/
structure Span where
  start : Nat
  stop : Nat
  deriving DecidableEq, Repr, Inhabited

namespace Span

/-- Whether the span ends before it begins. -/
def isInverted (span : Span) : Bool := span.stop < span.start

/-- The smallest span that covers both. -/
def union (a b : Span) : Span := ⟨min a.start b.start, max a.stop b.stop⟩

end Span

/-- The identity of a node. -/
structure NodeId where
  val : Nat
  deriving DecidableEq, Repr, Inhabited

mutual

/-- The content of a node. -/
inductive Block where
  | paragraph (inlines : List Inline)
  | heading (level : Nat) (inlines : List Inline)
  /-- A code block with the info string of its fence; an indented one has an empty info string. -/
  | code (info : String) (lines : List String)
  /-- A list.  The start number of a list that is not ordered means nothing. -/
  | list (ordered : Bool) (start : UInt64) (items : List (List Node))
  | quote (children : List Node)
  | rule
  /-- Source text that is shown as it stands. -/
  | raw (text : String)

/-- A block with its identity and the place it was read from. -/
structure Node where
  id : NodeId
  span : Span
  block : Block

end

deriving instance Repr, Inhabited for Block, Node

/-- The kind of a block, without its content. -/
inductive BlockKind where
  | paragraph
  | heading
  | code
  | list
  | quote
  | rule
  | raw
  deriving DecidableEq, Repr

/-- The kind of a block. -/
def Block.kind : Block → BlockKind
  | .paragraph _ => .paragraph
  | .heading .. => .heading
  | .code .. => .code
  | .list .. => .list
  | .quote _ => .quote
  | .rule => .rule
  | .raw _ => .raw

end MarkdownPager
