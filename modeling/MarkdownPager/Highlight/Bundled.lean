import MarkdownPager.Highlight.Bundled.EightiesDark
import MarkdownPager.Highlight.Bundled.InspiredGitHub
import MarkdownPager.Highlight.Bundled.MochaDark
import MarkdownPager.Highlight.Bundled.OceanDark
import MarkdownPager.Highlight.Bundled.OceanLight
import MarkdownPager.Highlight.Bundled.SolarizedDark
import MarkdownPager.Highlight.Bundled.SolarizedLight

/-!
# Bundled themes

The themes that can be asked for by name.
-/

namespace MarkdownPager.Theme

/-- The bundled themes under the names by which they are asked for, in alphabetical order. -/
def bundled : List (String × Theme) := [
  ("InspiredGitHub", inspiredGitHub),
  ("Solarized (dark)", solarizedDark),
  ("Solarized (light)", solarizedLight),
  ("base16-eighties.dark", eightiesDark),
  ("base16-mocha.dark", mochaDark),
  ("base16-ocean.dark", oceanDark),
  ("base16-ocean.light", oceanLight)]

/-- The names of the bundled themes. -/
def bundledNames : List String := bundled.map (·.1)

/-- The bundled theme of a name. -/
def find (name : String) : Except Error Theme :=
  match bundled.lookup name with
  | some theme => .ok theme
  | none => .error (.unknownTheme name)

end MarkdownPager.Theme
