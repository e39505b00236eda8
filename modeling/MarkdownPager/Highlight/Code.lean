import MarkdownPager.Highlight.Style
import MarkdownPager.Highlight.Token

/-!
# Highlighted code

Each line of a code text becomes a list of runs: stretches of text with their style.
-/

namespace MarkdownPager

universe u

/-- A stretch of code with its style. -/
structure StyledRun where
  text : String
  style : ResolvedStyle
  deriving DecidableEq, Repr, Inhabited

/-- The runs of one line with its tokens. -/
def styleTokens (rules : ThemeRules) (line : String) (tokens : List Token) : List StyledRun :=
  tokens.map fun token => ⟨token.text line, .ofScopes token.scopes rules⟩

/-- The runs of each line of a code text. -/
def highlightCode {σ : Type u} (code : String) (grammar : Option (Grammar σ))
    (rules : ThemeRules) : List (List StyledRun) :=
  let lines := Text.lines code
  (lines.zip (tokenizeDocument code grammar)).map fun (line, tokens) =>
    styleTokens rules line tokens

end MarkdownPager
