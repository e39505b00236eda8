import MarkdownPager.Color.Hex
import MarkdownPager.Highlight.Scope

/-!
# Styles of code

A theme rule may set a foreground, a background and a font.  The style of a scope stack takes each
colour from the first rule that sets it, rules being given most specific first, and joins the
fonts of all rules.  Colours stay texts until a style is made concrete for an appearance; a text
that is no hexadecimal colour then counts as unset.
-/

namespace MarkdownPager

/-- Font flags. -/
structure FontStyle where
  bold : Bool := false
  italic : Bool := false
  underline : Bool := false
  deriving DecidableEq, Repr, Inhabited

/-- The flags of either font. -/
def FontStyle.union (a b : FontStyle) : FontStyle :=
  ⟨a.bold || b.bold, a.italic || b.italic, a.underline || b.underline⟩

/-- What a theme says about the stacks that a selector matches. -/
structure ThemeRule where
  selector : String := ""
  foreground : Option String := none
  background : Option String := none
  fontStyle : Option FontStyle := none
  deriving DecidableEq, Repr, Inhabited

/-- The rules that match a stack of scopes, most specific first. -/
abbrev ThemeRules := List Scope → List ThemeRule

/-- A style whose colours are still texts. -/
structure ResolvedStyle where
  foreground : Option String := none
  background : Option String := none
  fontStyle : FontStyle := {}
  deriving DecidableEq, Repr, Inhabited

/-- A style whose colours can be shown. -/
structure ConcreteStyle where
  foreground : Rgb
  background : Option Rgb
  fontStyle : FontStyle
  deriving DecidableEq, Repr, Inhabited

namespace ResolvedStyle

/-- The style with what a rule adds to it. -/
def addRule (style : ResolvedStyle) (rule : ThemeRule) : ResolvedStyle where
  foreground := style.foreground.or rule.foreground
  background := style.background.or rule.background
  fontStyle := style.fontStyle.union (rule.fontStyle.getD {})

/-- The style that rules make, most specific first. -/
def ofRules (rules : List ThemeRule) : ResolvedStyle :=
  rules.foldl addRule {}

/-- The style of a stack of scopes.  Text without scopes has no style whatever the rules say. -/
def ofScopes (scopes : List Scope) (rules : ThemeRules) : ResolvedStyle :=
  if scopes.isEmpty then {} else ofRules (rules scopes)

/-- The colour that a text names, if it can be shown. -/
def usable? (color : Option String) : Option Rgb :=
  color.bind fun text => (Rgb.parseHex text).toOption

/-- The style as shown in an appearance. -/
def toConcrete (style : ResolvedStyle) (appearance : Appearance) : ConcreteStyle where
  foreground := (usable? style.foreground).getD appearance.defaultForeground
  background := usable? style.background
  fontStyle := style.fontStyle

end ResolvedStyle

end MarkdownPager
