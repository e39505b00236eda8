import MarkdownPager.Document.Block

/-!
# Documents

A document is a source text with its top-level nodes.  The nodes need not come from that text:
documents can be put together from any.
-/

namespace MarkdownPager

/-- A text and the nodes it is shown as. -/
structure Document where
  source : String
  blocks : List Node
  deriving Repr, Inhabited

namespace Document

/-- Whether the document has no block. -/
def isEmpty (document : Document) : Bool := document.blocks.isEmpty

end Document

end MarkdownPager
