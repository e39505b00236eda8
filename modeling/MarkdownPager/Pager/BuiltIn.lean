import MarkdownPager.Grammar.Catalog
import MarkdownPager.Markdown.Blocks
import MarkdownPager.Pager.Page

/-!
# Built-in parsers

The parsers that the program is run with: the library's own reader of Markdown, and the languages of
its catalog.
-/

namespace MarkdownPager

/-- The reader of Markdown and the catalog of languages that the program comes with. -/
def Parsers.builtIn : Parsers Language.State where
  markdown := Markdown.eventsOf
  language info := (Catalog.language? info).map (·.parser)

end MarkdownPager
