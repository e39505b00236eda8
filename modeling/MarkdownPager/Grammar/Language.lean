import MarkdownPager.Grammar.Pattern
import MarkdownPager.Highlight.Token

/-!
# Languages

A language is a set of contexts, each a list of rules.  A line is read in the innermost open
context: of all rules the one that fits first in the line wins, the earlier rule among equals.
Its match may open a context or close the current one, and it changes the scope stack: scopes
around the whole match, around its groups, and around everything inside a context.

Reading a line gives the changes of the scope stack with their byte offsets.  `ScopeParser.grammar`
replays such changes: the line is cut wherever the stack may have changed, and each piece carries
the stack as it was there.
-/

namespace MarkdownPager

universe u

/-! ## Contexts and rules -/

/-- What a match does to the open contexts. -/
inductive Action where
  | stay
  | push (context : String)
  | pop
  deriving DecidableEq, Repr

/-- A pattern with the scopes of its match and of its groups, and what it does. -/
structure Rule where
  pattern : Pattern
  scopes : List Scope := []
  captures : List (Nat × Scope) := []
  action : Action := .stay

/-- Rules that hold together, with the scopes of everything read by them. -/
structure Context where
  name : String
  metaScopes : List Scope := []
  rules : List Rule

/-- A language: the scope of all its text, and its contexts, the first of which is open from the
start. -/
structure Language where
  root : Scope
  contexts : List Context

/-- A scope given by its name. -/
def scopeNamed (name : String) : Scope := ⟨Scope.atomsOf name⟩

namespace Language

/-- What is carried from line to line: whether a line has been read, and the open contexts,
innermost first. -/
structure State where
  started : Bool := false
  contexts : List Context

/-- No context is opened above this many. -/
def maxDepth : Nat := 100

/-- The state before the first line. -/
def initial (language : Language) : State where
  contexts := language.contexts.take 1

/-- The context of a name. -/
def context? (language : Language) (name : String) : Option Context :=
  language.contexts.find? (·.name == name)

/-- A match of a rule. -/
structure Match where
  rule : Rule
  start : Nat
  stop : Pattern.Place
  captures : List Pattern.Capture

/-- The first rule that fits at a place.  A match that takes nothing counts only if it changes the
contexts. -/
def matchAt? (rules : List Rule) (place : Pattern.Place) : Option Match :=
  rules.findSome? fun rule =>
    match rule.pattern.matchAt? place with
    | none => none
    | some (stop, captures) =>
      if stop.offset = place.offset ∧ rule.action = .stay then none
      else some ⟨rule, place.offset, stop, captures⟩

/-- The first match in a line from a place on. -/
def search? (rules : List Rule) (offset : Nat) (before : Option Char) : List Char → Option Match
  | [] => matchAt? rules ⟨offset, before, []⟩
  | c :: cs =>
    match matchAt? rules ⟨offset, before, c :: cs⟩ with
    | some found => some found
    | none => search? rules (offset + c.utf8Size) (some c) cs

/-- A change of the scope stack at a byte offset. -/
abbrev ScopeEdit := Nat × ScopeOp

/-- Pushes scopes at an offset. -/
def pushes (offset : Nat) (scopes : List Scope) : List ScopeEdit :=
  scopes.map fun scope => (offset, .push scope)

/-- Pops as many scopes as there are in the list. -/
def pops (offset : Nat) (scopes : List Scope) : List ScopeEdit :=
  if scopes.isEmpty then [] else [(offset, .pop scopes.length)]

/-- The last stretch that a group covers in a match; group 0 is the match itself. -/
def Match.stretch? (found : Match) (group : Nat) : Option (Nat × Nat) :=
  if group = 0 then some (found.start, found.stop.offset)
  else (found.captures.reverse.find? (·.group == group)).map fun c => (c.start, c.stop)

/-- Whether an edit of a group comes before another: by offset, pops before pushes, and of two
pushes the one for the longer stretch first. -/
def precedes (a b : Nat × Option Nat × ScopeOp) : Bool :=
  a.1 < b.1 || (a.1 == b.1 &&
    match a.2.1, b.2.1 with
    | none, _ => true
    | some _, none => false
    | some m, some n => n ≤ m)

/-- Adds an edit behind all that it does not come before. -/
def insertEdit (edit : Nat × Option Nat × ScopeOp) :
    List (Nat × Option Nat × ScopeOp) → List (Nat × Option Nat × ScopeOp)
  | [] => [edit]
  | other :: rest =>
    if precedes other edit then other :: insertEdit edit rest else edit :: other :: rest

/-- The scope changes that the groups of a match make, in their order. -/
def Match.groupEdits (found : Match) : List ScopeEdit :=
  let edits := found.rule.captures.flatMap fun (group, scope) =>
    match found.stretch? group with
    | none => []
    | some (start, stop) =>
      if start = stop then []
      else [(start, some (stop - start), ScopeOp.push scope), (stop, none, ScopeOp.pop 1)]
  (edits.foldl (fun sorted edit => insertEdit edit sorted) []).map fun (offset, _, op) =>
    (offset, op)

/-- The scope changes of a match read in `current`. -/
def edits (language : Language) (current : Context) (found : Match) : List ScopeEdit :=
  let stop := found.stop.offset
  let opened := match found.rule.action with
    | .push name => ((language.context? name).map (·.metaScopes)).getD []
    | _ => []
  let closed := match found.rule.action with
    | .pop => current.metaScopes
    | _ => []
  pushes found.start opened ++ pushes found.start found.rule.scopes ++ found.groupEdits ++
    pops stop found.rule.scopes ++ pops stop closed

/-- The open contexts after a match. -/
def contextsAfter (language : Language) (open_ : List Context) (found : Match) : List Context :=
  match found.rule.action with
  | .stay => open_
  | .pop => open_.tail
  | .push name =>
    if maxDepth ≤ open_.length then open_
    else match language.context? name with
      | some context => context :: open_
      | none => open_

/-- The scope changes in the rest of a line, in at most `fuel` matches, and the contexts open
after it. -/
def scan (language : Language) : Nat → List Context → Pattern.Place →
    List ScopeEdit × List Context
  | 0, open_, _ => ([], open_)
  | _ + 1, [], _ => ([], [])
  | fuel + 1, current :: outer, place =>
    match search? current.rules place.offset place.before place.rest with
    | none => ([], current :: outer)
    | some found =>
      let (later, final) :=
        language.scan fuel (language.contextsAfter (current :: outer) found) found.stop
      (language.edits current found ++ later, final)

/-- The scope changes in a line, which ends in a line feed.  A match that takes nothing closes a
context, so there are no more matches than twice the characters and the open contexts. -/
def parseLine (language : Language) (state : State) (line : String) : List ScopeEdit × State :=
  let cs := line.toList
  let (edits, contexts) :=
    language.scan (2 * cs.length + state.contexts.length + 1) state.contexts ⟨0, none, cs⟩
  let lead := if state.started then [] else [(0, ScopeOp.push language.root)]
  (lead ++ edits, ⟨true, contexts⟩)

end Language

/-! ## Replaying scope changes -/

/-- Finds the scope changes in a line that ends in a line feed, carrying a state from line to
line. -/
structure ScopeParser (σ : Type u) where
  initial : σ
  parseLine : σ → String → Except Error (List (Nat × ScopeOp) × σ)
  /-- What a change makes of the stack, or why it does not apply. -/
  apply : ScopeStack → ScopeOp → Except String ScopeStack

/-- The state of a parser with the scope stack at the end of the last line. -/
structure ReplayState (σ : Type u) where
  parse : σ
  scopes : ScopeStack

namespace ScopeParser

/-- Cuts a line of `length` bytes at scope changes.  Everything before `cursor` has been cut
already, and `stack` is the scope stack there. -/
def replay {σ : Type u} (parser : ScopeParser σ) (length : Nat) :
    List (Nat × ScopeOp) → Nat → ScopeStack → Except Error (List Token × ScopeStack)
  | [], cursor, stack =>
    .ok (if cursor < length then [⟨cursor, length, stack.scopes⟩] else [], stack)
  | (offset, op) :: edits, cursor, stack =>
    match parser.apply stack op with
    | .error reason => .error (.tokenizer reason)
    | .ok next =>
      if cursor < offset then
        (parser.replay length edits offset next).map fun (tokens, final) =>
          (⟨cursor, offset, stack.scopes⟩ :: tokens, final)
      else parser.replay length edits cursor next

/-- The grammar that cuts lines where the parser changes the scope stack.  The parser sees each
line with its line feed, which the session cuts off again. -/
def grammar {σ : Type u} (parser : ScopeParser σ) : Grammar (ReplayState σ) := fun line state =>
  let state := state.getD ⟨parser.initial, {}⟩
  match parser.parseLine state.parse (line ++ "\n") with
  | .error failure => .error failure
  | .ok (edits, parse) =>
    match parser.replay (line.utf8ByteSize + 1) edits 0 state.scopes with
    | .error failure => .error failure
    | .ok (tokens, scopes) => .ok (tokens, ⟨parse, scopes⟩)

end ScopeParser

namespace Language

/-- A language as a parser; it never fails to read a line. -/
def parser (language : Language) : ScopeParser State where
  initial := language.initial
  parseLine state line := .ok (language.parseLine state line)
  apply := ScopeStack.apply

/-- What is carried from line to line of a language. -/
abbrev LineState := ReplayState State

/-- A language as a grammar. -/
def grammar (language : Language) : Grammar LineState :=
  language.parser.grammar

end Language

end MarkdownPager
