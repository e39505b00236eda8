import MarkdownPager.Color.Basic

/-!
# Configuration

Which appearance is in use, and the name of the theme for each.
-/

namespace MarkdownPager

/-- The theme used on a light ground unless another is asked for. -/
def defaultLightTheme : String := "InspiredGitHub"

/-- The theme used on a dark ground unless another is asked for. -/
def defaultDarkTheme : String := "base16-ocean.dark"

/-- The appearance in use and the theme names of both. -/
structure Config where
  appearance : Appearance := .dark
  lightTheme : String := defaultLightTheme
  darkTheme : String := defaultDarkTheme
  deriving DecidableEq, Repr, Inhabited

namespace Config

/-- The theme name for an appearance. -/
def themeFor (config : Config) : Appearance → String
  | .light => config.lightTheme
  | .dark => config.darkTheme

/-- The theme name for the appearance in use. -/
def themeName (config : Config) : String :=
  config.themeFor config.appearance

end Config

end MarkdownPager
