import MarkdownPager.Error
import MarkdownPager.Highlight.Scope
import MarkdownPager.Text.Bytes

/-!
# Tokenizing line by line

A grammar reads one line at a time and carries a state from each line to the next.  A session
keeps that state and makes the grammar's answers safe to use: tokens are cut off at the end of the
line, empty ones are dropped, and a line on which the grammar fails is left as one token without
scopes, with the state as it was before.

Lines are cut at line feeds only.
-/

namespace MarkdownPager

universe u

/-- A stretch of a line, in bytes, with the scopes it has. -/
structure Token where
  start : Nat
  stop : Nat
  scopes : List Scope
  deriving DecidableEq, Repr, Inhabited

namespace Token

/-- The text that the token covers; empty when its ends are not between characters. -/
def text (token : Token) (line : String) : String :=
  (Text.slice? line token.start token.stop).getD ""

/-- The token with both ends moved into a line of that many bytes. -/
def clamp (length : Nat) (token : Token) : Token :=
  { token with start := min token.start length, stop := min token.stop length }

/-- Cuts tokens off at the end of a line and drops those that nothing is left of. -/
def clip (length : Nat) (tokens : List Token) : List Token :=
  (tokens.map (clamp length)).filter fun token => token.start < token.stop

/-- A line as one token without scopes, or as none if it is empty. -/
def passthrough (line : String) : List Token :=
  if line.utf8ByteSize = 0 then [] else [⟨0, line.utf8ByteSize, []⟩]

end Token

/-- Reads a line, given without its line feed, in the state that the last line left; there is no
state before the first line. -/
abbrev Grammar (σ : Type u) := String → Option σ → Except Error (List Token × σ)

/-- Tokenizes lines one after the other. -/
structure Session (σ : Type u) where
  /-- Without a grammar every line passes through as it is. -/
  grammar : Option (Grammar σ)
  state : Option σ := none

namespace Session

variable {σ : Type u}

/-- The tokens of the next line, and the session after it. -/
def tokenizeLine (session : Session σ) (line : String) : List Token × Session σ :=
  match session.grammar with
  | none => (Token.passthrough line, session)
  | some grammar =>
    match grammar line session.state with
    | .ok (tokens, state) =>
      (Token.clip line.utf8ByteSize tokens, { session with state := some state })
    | .error _ => (Token.passthrough line, session)

/-- The tokens of each line, and the session after the last. -/
def tokenizeLines (session : Session σ) : List String → List (List Token) × Session σ
  | [] => ([], session)
  | line :: rest =>
    let (tokens, next) := session.tokenizeLine line
    let (more, last) := next.tokenizeLines rest
    (tokens :: more, last)

end Session

/-- The tokens of each line of a text. -/
def tokenizeDocument {σ : Type u} (text : String) (grammar : Option (Grammar σ)) :
    List (List Token) :=
  ((Session.mk grammar none).tokenizeLines (Text.lines text)).1

end MarkdownPager
