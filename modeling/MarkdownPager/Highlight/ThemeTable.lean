import MarkdownPager.Highlight.Theme

/-!
# Theme tables

The bundled themes are written as tables.  A row has a foreground, a background, a font and a
selector, in this order; a hyphen leaves a column unset.  The font is a list of the letters `b`,
`i` and `u` in brackets, which may be empty: a font without flags is not the same as none.
-/

namespace MarkdownPager.Theme

/-- Reads a colour column. -/
def tableColor? (word : List Char) : Option String :=
  if word = ['-'] then none else some (.ofList word)

/-- Reads the font column. -/
def tableFont? (word : List Char) : Option FontStyle :=
  if word = ['-'] then none
  else some ⟨word.contains 'b', word.contains 'i', word.contains 'u'⟩

/-- Reads a row; a row without all four columns is skipped. -/
def tableRow? (row : List Char) : Option (Selectors × ThemeRule) :=
  match Text.splitWhere (· == ' ') row with
  | foreground :: background :: font :: selector =>
    (Selectors.parse? (Text.join " " (selector.map .ofList))).map fun selectors =>
      (selectors,
        { selector := selectors.describe
          foreground := tableColor? foreground
          background := tableColor? background
          fontStyle := tableFont? font })
  | _ => none

/-- The theme of a table. -/
def ofTable (name table : String) : Theme where
  name := some name
  rules := (Text.linesOf table.toList).filterMap tableRow?

end MarkdownPager.Theme
