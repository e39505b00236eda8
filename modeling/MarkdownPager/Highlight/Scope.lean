import MarkdownPager.Text.Lines

/-!
# Scopes

A scope names what a piece of code is, as a dotted path of atoms from the general to the special:
`string.quoted.double`.  A piece of code carries a stack of scopes, outermost first.

While a line is read the stack changes by operations.  `ScopeStack.apply` performs one; the only
operation that can fail is a `restore` without a `clear` before it.
-/

namespace MarkdownPager

/-- A dotted path of atoms. -/
structure Scope where
  atoms : List String
  deriving DecidableEq, Repr, Inhabited

namespace Scope

/-- The largest number of atoms a scope can have. -/
def maxAtoms : Nat := 8

/-- Cuts a text at its dots.  White space around it and dots at its end are ignored, and the empty
text has no atom; apart from that atoms may be empty. -/
def atomsOf (s : String) : List String :=
  match Text.trimChars s.toList with
  | [] => []
  | cs => (Text.splitWhere (· == '.') (Text.dropRightWhile (· == '.') cs)).map .ofList

/-- Reads a scope, unless it has too many atoms. -/
def parse? (s : String) : Option Scope :=
  let atoms := atomsOf s
  if atoms.length ≤ maxAtoms then some ⟨atoms⟩ else none

/-- The atoms with dots between them. -/
def name (scope : Scope) : String :=
  Text.join "." scope.atoms

/-- Whether the atoms of `a` are the first atoms of `b`. -/
def isPrefix (a b : Scope) : Bool :=
  a.atoms.isPrefixOf b.atoms

end Scope

/-- A change of the scope stack. -/
inductive ScopeOp where
  /-- Adds a scope on top. -/
  | push (scope : Scope)
  /-- Takes that many scopes from the top, or all if there are fewer. -/
  | pop (count : Nat)
  /-- Sets that many scopes from the top aside, or all if no number is given. -/
  | clear (count : Option Nat)
  /-- Puts the scopes back that were set aside last. -/
  | restore
  | noop
  deriving DecidableEq, Repr

/-- The scopes of the current place, outermost first, and those set aside, the latest first. -/
structure ScopeStack where
  scopes : List Scope := []
  aside : List (List Scope) := []
  deriving DecidableEq, Repr, Inhabited

namespace ScopeStack

/-- The stack after an operation, which fails if scopes are to be put back and none are set
aside. -/
def apply (stack : ScopeStack) : ScopeOp → Except String ScopeStack
  | .push scope => .ok { stack with scopes := stack.scopes ++ [scope] }
  | .pop count => .ok { stack with scopes := stack.scopes.take (stack.scopes.length - count) }
  | .clear count =>
    let kept := stack.scopes.length - count.getD stack.scopes.length
    .ok ⟨stack.scopes.take kept, stack.scopes.drop kept :: stack.aside⟩
  | .restore =>
    match stack.aside with
    | [] => .error "NoClearedScopesToRestore"
    | cleared :: aside => .ok ⟨stack.scopes ++ cleared, aside⟩
  | .noop => .ok stack

end ScopeStack

end MarkdownPager
