import MarkdownPager.Highlight.Scope

/-!
# Selectors

A selector says which scope stacks a theme rule is about.  Its alternatives are separated by `,`
or `|`; each one is a path of scopes, followed by excluded paths behind ` -`.

A path matches a stack when its scopes are found in it in order, each as a prefix of a scope of
the stack.  The power of a match grows with the number of atoms matched and, far more, with the
depth at which they match: a scope of `n` atoms found at depth `i` counts `n · 8 ^ i`.  Powers are
kept to 53 significant bits, ties to even, and nothing counts more than `2 ^ 1024`.
-/

namespace MarkdownPager

/-- One alternative: a path and the paths that exclude a stack. -/
structure Selector where
  path : List Scope
  excludes : List (List Scope) := []
  deriving DecidableEq, Repr, Inhabited

/-- The alternatives of a selector text. -/
structure Selectors where
  alternatives : List Selector
  deriving DecidableEq, Repr, Inhabited

/-- The power of a match, rounded to 53 significant bits. -/
def Power.round (n : Nat) : Nat :=
  let spare := n.log2 + 1 - 53
  let unit := Nat.pow 2 spare
  let quotient := n / unit
  let rest := n % unit
  let up := unit < 2 * rest || (unit = 2 * rest && quotient % 2 = 1)
  min ((if up then quotient + 1 else quotient) * unit) (Nat.pow 2 1024)

namespace Selector

/-- The power with which a path matches the part of a stack from depth `depth` on, on top of the
power gathered so far. -/
def matchFrom? : List Scope → List Scope → Nat → Nat → Option Nat
  | _, [], _, _ => none
  | [], _ :: _, _, _ => none
  | wanted :: path, scope :: stack, depth, power =>
    if wanted.isPrefix scope then
      let power := Power.round (power + wanted.atoms.length * 8 ^ depth)
      if path.isEmpty then some power else matchFrom? path stack (depth + 1) power
    else matchFrom? (wanted :: path) stack (depth + 1) power
  termination_by structural _ stack => stack

/-- The power with which a path that is not empty matches a stack. -/
def matchPath? (path stack : List Scope) : Option Nat :=
  matchFrom? path stack 0 0

/-- The power with which an alternative matches a stack.  An empty path matches every stack. -/
def match? (selector : Selector) (stack : List Scope) : Option Nat :=
  if selector.excludes.any fun path => path.isEmpty || (matchPath? path stack).isSome then none
  else if selector.path.isEmpty then some 1
  else matchPath? selector.path stack

/-- Cuts at every blank that is followed by a hyphen, and takes both away. -/
def splitExcludes : List Char → List (List Char)
  | [] => [[]]
  | ' ' :: '-' :: cs => [] :: splitExcludes cs
  | c :: cs =>
    match splitExcludes cs with
    | [] => [[c]]
    | part :: parts => (c :: part) :: parts

/-- Reads a path of scopes. -/
def parsePath? (cs : List Char) : Option (List Scope) :=
  (Text.wordsOf cs).mapM fun word => Scope.parse? (.ofList word)

/-- Reads an alternative, unless a scope in it has too many atoms. -/
def parse? (cs : List Char) : Option Selector :=
  match splitExcludes cs with
  | [] => some ⟨[], []⟩
  | path :: excludes => do
    let excludes ← excludes.mapM parsePath?
    let path ← parsePath? path
    pure { path, excludes }

/-- How a path is written in a rule's label. -/
def describePath (path : List Scope) : String :=
  "ScopeStack \x7b clear_stack: [], scopes: [" ++
    Text.join ", " (path.map fun scope => "<" ++ scope.name ++ ">") ++ "] \x7d"

/-- How an alternative is written in a rule's label. -/
def describe (selector : Selector) : String :=
  "ScopeSelector \x7b path: " ++ describePath selector.path ++ ", excludes: [" ++
    Text.join ", " (selector.excludes.map describePath) ++ "] \x7d"

end Selector

namespace Selectors

/-- Reads a selector text, unless a scope in it has too many atoms. -/
def parse? (s : String) : Option Selectors := do
  let alternatives ← (Text.splitWhere (fun c => c == ',' || c == '|') s.toList).mapM Selector.parse?
  pure ⟨alternatives⟩

/-- The greatest power of an alternative that matches. -/
def match? (selectors : Selectors) (stack : List Scope) : Option Nat :=
  (selectors.alternatives.filterMap (·.match? stack)).max?

/-- How a selector is written in a rule's label. -/
def describe (selectors : Selectors) : String :=
  "ScopeSelectors \x7b selectors: [" ++
    Text.join ", " (selectors.alternatives.map (·.describe)) ++ "] \x7d"

end Selectors

end MarkdownPager
