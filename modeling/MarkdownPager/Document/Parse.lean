import MarkdownPager.Document.OfEvents

/-!
# Documents from Markdown

`Document.parse` makes a document of what a reader of Markdown reads in a text.  Its nodes get
identities from `firstId` on, and the number it gives back is one that none of them has reached.
-/

namespace MarkdownPager

/-- Reads a text as Markdown: the document, and the first identity that is still free. -/
def Document.parse (reader : Markdown.Reader) (firstId : Nat) (source : String) : Document × Nat :=
  let events := reader source
  (⟨source, Node.ofEvents (.ofSource firstId source) events⟩, firstId + events.length)

end MarkdownPager
