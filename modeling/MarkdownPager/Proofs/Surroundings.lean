import MarkdownPager.Render.Block

/-!
# Running text in its surroundings

Rendering counts the markup that is open, up where an inline opens and down behind its children, and
the counters are handed on from one inline to the next.  A counter that came back changed would
leak into the text behind.  It never does: every inline gives the counters back as it was given
them, however deep and in whatever order markup is nested in it.

So what surrounds an inline can as well be handed down by value, and need not come back at all.
`addInline` and `addInlines` are rendering in that form.

* `Renderer.InlineState.style_eq` — only whether a counter is above zero matters to the style.
* `Renderer.pushInline_eq`, `Renderer.pushInlines_eq` — both forms add the same to the lines, and
  the counters come back.
* `Renderer.inlineLines_eq` — the lines of running text, without a counter.
-/

namespace MarkdownPager.Renderer

/-- The markup around a piece of running text. -/
structure Surroundings where
  emphasis : Bool := false
  strong : Bool := false
  strikethrough : Bool := false
  link : Bool := false
  deriving DecidableEq, Repr

/-- The style of text in its surroundings, starting from a base style. -/
def Surroundings.style (around : Surroundings) (base : TextStyle) : TextStyle where
  foreground := if around.link then some (.rgb linkColor) else base.foreground
  background := base.background
  bold := base.bold || around.strong
  italic := base.italic || around.emphasis
  underlined := base.underlined || around.link
  crossedOut := base.crossedOut || around.strikethrough

mutual

/-- Adds an inline in its surroundings to the lines. -/
def addInline (appearance : Appearance) (base : TextStyle) (around : Surroundings) :
    Inline → LineBuilder → LineBuilder
  | .text t, lines => lines.pushText t (around.style base)
  | .code t, lines => lines.pushText t (inlineCodeStyle appearance)
  | .html _, lines => lines
  | .emphasis children, lines =>
    addInlines appearance base { around with emphasis := true } children lines
  | .strong children, lines =>
    addInlines appearance base { around with strong := true } children lines
  | .strikethrough children, lines =>
    addInlines appearance base { around with strikethrough := true } children lines
  | .link url children, lines =>
    addInlines appearance base { around with link := true } children
      (lines.pushLink ⟨Inline.plainText children, url⟩)
  | .image url alt, lines => lines.pushText (imageText url alt) { foreground := some .lightBlue }
  | .softBreak, lines => lines.pushText " " (around.style base)
  | .hardBreak, lines => lines.breakLine
  | .taskMarker done, lines => lines.pushText (Inline.taskBox done) .muted
  | .footnoteRef name, lines => lines.pushText (Inline.footnoteMark name) .muted

/-- Adds inlines in their surroundings to the lines, one after the other. -/
def addInlines (appearance : Appearance) (base : TextStyle) (around : Surroundings) :
    List Inline → LineBuilder → LineBuilder
  | [], lines => lines
  | inline :: rest, lines =>
    addInlines appearance base around rest (addInline appearance base around inline lines)

end

namespace InlineState

/-- What the counters say about the surroundings. -/
def surroundings (state : InlineState) : Surroundings where
  emphasis := 0 < state.emphasis
  strong := 0 < state.strong
  strikethrough := 0 < state.strikethrough
  link := 0 < state.linkDepth

/-- **Only whether a counter is above zero matters.** -/
theorem style_eq (state : InlineState) (base : TextStyle) :
    state.style base = state.surroundings.style base := by
  obtain ⟨emphasis, strong, strikethrough, linkDepth⟩ := state
  cases emphasis <;> cases strong <;> cases strikethrough <;> cases linkDepth <;>
    simp [style, surroundings, Surroundings.style]

end InlineState

variable (appearance : Appearance) (base : TextStyle)

mutual

/-- An inline is added in the surroundings that the counters tell, and gives the counters back. -/
theorem pushInline_eq : ∀ (inline : Inline) (lines : LineBuilder) (state : InlineState),
    pushInline appearance base inline lines state =
      (addInline appearance base state.surroundings inline lines, state)
  | .text _, lines, state | .softBreak, lines, state => by
      rw [pushInline, addInline, state.style_eq]
  | .code _, _, _ | .html _, _, _ | .image .., _, _ | .hardBreak, _, _ | .taskMarker _, _, _
  | .footnoteRef _, _, _ => by
      rw [pushInline, addInline]
  -- A counter that is above zero inside comes down by one again.
  | .emphasis children, lines, state | .strong children, lines, state
  | .strikethrough children, lines, state | .link _ children, lines, state => by
      rw [pushInline, addInline, pushInlines_eq children]
      simp [InlineState.surroundings]

/-- **Counters come back.**  Inlines are added in the surroundings that the counters tell, and
behind them the counters are as before. -/
theorem pushInlines_eq : ∀ (inlines : List Inline) (lines : LineBuilder) (state : InlineState),
    pushInlines appearance base inlines lines state =
      (addInlines appearance base state.surroundings inlines lines, state)
  | [], _, _ => by
      rw [pushInlines, addInlines]
  | inline :: rest, lines, state => by
      rw [pushInlines, addInlines, pushInline_eq inline]
      exact pushInlines_eq rest _ state

end

/-- Running text begins without markup around it. -/
theorem inlineLines_eq (inlines : List Inline) :
    inlineLines appearance base inlines = (addInlines appearance base {} inlines {}).finish := by
  rw [inlineLines, pushInlines_eq]
  rfl

end MarkdownPager.Renderer
