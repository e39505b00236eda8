import MarkdownPager.Config
import MarkdownPager.Live
import MarkdownPager.Pager.Failure
import MarkdownPager.Pager.Stream
import MarkdownPager.Render.Block

/-!
# Pages

A page is a live document whose blocks are rendered in one of two themes, one for each appearance.
Which texts are Markdown and which are code of some language is up to the parsers that it is started
with.
-/

namespace MarkdownPager

/-- The themes of both appearances. -/
structure Themes where
  light : Theme
  dark : Theme

namespace Themes

/-- The theme of an appearance. -/
def get (themes : Themes) : Appearance → Theme
  | .light => themes.light
  | .dark => themes.dark

/-- The bundled theme of a name. -/
def find (name : String) : Except Failure Theme := (Theme.find name).mapError .theme

/-- The themes that a configuration names.  The light one is looked up first. -/
def load (config : Config) : Except Failure Themes :=
  match find config.lightTheme with
  | .error failure => .error failure
  | .ok light => (find config.darkTheme).map fun dark => ⟨light, dark⟩

end Themes

/-- What the texts of a page are read with. -/
structure Parsers (σ : Type) where
  markdown : Markdown.Reader
  /-- The language that the info string of a code block names. -/
  language : String → Option (ScopeParser σ)

variable {σ : Type}

namespace Renderer

/-- The renderer of a theme in an appearance. -/
def ofTheme (languages : String → Option (ScopeParser σ)) (theme : Theme)
    (appearance : Appearance) : Renderer σ where
  languages
  theme := theme.matchingRules
  appearance

/-- The renderer with another theme and appearance.  The languages stay. -/
def setTheme (theme : Theme) (appearance : Appearance) (renderer : Renderer σ) : Renderer σ :=
  { renderer with theme := theme.matchingRules, appearance }

end Renderer

/-- Renders nodes with the renderer that is carried along. -/
def renderNode : Materializer (Renderer σ) RenderedBlock := fun node renderer =>
  (renderer.render node, renderer)

/-- A text as it is shown. -/
abbrev Page (σ : Type) := LiveDocument (Renderer σ) RenderedBlock

namespace Page

/-- A page without a text. -/
def start (parsers : Parsers σ) (themes : Themes) (appearance : Appearance) : Page σ :=
  LiveDocument.start parsers.markdown renderNode
    (.ofTheme parsers.language (themes.get appearance) appearance)

/-- The appearance of a page. -/
def appearance (page : Page σ) : Appearance := page.state.appearance

end Page

/-- The text of blocks without styles, with an empty line between neighbours. -/
def plainRender (blocks : List RenderedBlock) : String :=
  Text.join "\n\n" (blocks.map (·.plain))

end MarkdownPager
