import MarkdownPager.Error
import MarkdownPager.Highlight.Selector
import MarkdownPager.Highlight.Style

/-!
# Themes

A theme is a list of rules with selectors.  For a stack of scopes it gives the rules that match,
by falling power; of two rules with equal power the later one comes first.
-/

namespace MarkdownPager

universe u v

section Rank

variable {ρ : Type v} [LE ρ] [DecidableLE ρ] {α κ : Type u}

/-- A rule with its rank in front of those it outranks.  Among equal ranks the new one goes
last. -/
def insertRanked (rank : ρ) (item : α) : List (ρ × α) → List (ρ × α)
  | [] => [(rank, item)]
  | (rank', item') :: rest =>
    if rank ≤ rank' then (rank', item') :: insertRanked rank item rest
    else (rank, item) :: (rank', item') :: rest

/-- Items by falling rank; those of equal rank keep their order. -/
def sortRanked (items : List (ρ × α)) : List (ρ × α) :=
  items.foldl (fun sorted (rank, item) => insertRanked rank item sorted) []

/-- The rules that have a power, by falling power; among equal powers, the later rule first. -/
def rankRules (power? : κ → Option ρ) (rules : List (κ × ThemeRule)) : List ThemeRule :=
  (sortRanked (rules.reverse.filterMap fun (key, rule) =>
    (power? key).map fun power => (power, rule))).map (·.2)

end Rank

/-- A list of rules with their selectors. -/
structure Theme where
  name : Option String := none
  rules : List (Selectors × ThemeRule)
  deriving Repr, Inhabited

namespace Theme

/-- The rules that match a stack of scopes, where `power?` tells how well a selector does. -/
def matchingRulesBy {ρ : Type v} [LE ρ] [DecidableLE ρ]
    (power? : Selectors → List Scope → Option ρ) (theme : Theme) : ThemeRules := fun scopes =>
  rankRules (power? · scopes) theme.rules

/-- The rules that match a stack of scopes. -/
def matchingRules (theme : Theme) : ThemeRules := theme.matchingRulesBy Selectors.match?

/-- The failure on a selector text that cannot be read. -/
def badSelector (selector : String) : Error :=
  .tokenizer ("bad selector " ++ Text.quoted selector ++ ": TooManyAtoms")

/-- A theme of rules whose selectors are given as texts.  The first text that cannot be read is
the failure. -/
def ofRules : List ThemeRule → Except Error Theme
  | [] => .ok { rules := [] }
  | rule :: rest =>
    match Selectors.parse? rule.selector with
    | none => .error (badSelector rule.selector)
    | some selectors =>
      (ofRules rest).map fun theme => { theme with rules := (selectors, rule) :: theme.rules }

end Theme

end MarkdownPager
