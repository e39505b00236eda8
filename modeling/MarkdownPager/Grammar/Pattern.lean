import MarkdownPager.Text.Blank
import MarkdownPager.Text.Bytes
import MarkdownPager.Text.Word

/-!
# Patterns

The patterns by which grammars find things in a line.  A pattern is tried at a place, choices are
tried in order, and a repetition takes as much as it can (or as little, if it is lazy) and gives
back what the rest of the pattern needs.  Groups record the bytes they cover.

The matcher is written with the rest of the work as an argument, so trying, failing and trying
again is ordinary recursion on the pattern; a repetition goes round at most once per remaining
character, because a round that takes nothing ends it.
-/

namespace MarkdownPager

/-- What can be looked for in a line. -/
inductive Pattern where
  /-- The empty text. -/
  | nothing
  /-- One character of a class. -/
  | char (accepts : Char → Bool)
  | seq (first second : Pattern)
  | alt (first second : Pattern)
  /-- Any number of rounds, as many or as few as possible. -/
  | many (lazy : Bool) (body : Pattern)
  | group (index : Nat) (body : Pattern)
  /-- What follows is, or is not, the given pattern; nothing is taken. -/
  | ahead (expected : Bool) (body : Pattern)
  | lineStart
  /-- Before a line feed or at the end. -/
  | lineEnd
  | wordBoundary

namespace Pattern

/-- A place in a line: the bytes before it, the character before it and what follows. -/
structure Place where
  offset : Nat
  before : Option Char
  rest : List Char
  deriving Repr

/-- The place behind the next character. -/
def Place.next? (place : Place) : Option (Char × Place) :=
  match place.rest with
  | [] => none
  | c :: rest => some (c, ⟨place.offset + c.utf8Size, some c, rest⟩)

/-- A stretch of bytes that a group covers. -/
structure Capture where
  group : Nat
  start : Nat
  stop : Nat
  deriving Repr

/-- What is left to match after some part of a pattern, from a place and with the groups
recorded so far. -/
abbrev Rest := Place → List Capture → Option (Place × List Capture)

/-- Rounds of `body`, at most `fuel` of them. -/
def rounds (lazy : Bool) (body : Place → List Capture → Rest → Option (Place × List Capture))
    (rest : Rest) : Nat → Place → List Capture → Option (Place × List Capture)
  | 0, place, captures => rest place captures
  | fuel + 1, place, captures =>
    let again := fun (_ : Unit) => body place captures fun next captures =>
      if next.offset = place.offset then none else rounds lazy body rest fuel next captures
    if lazy then
      match rest place captures with
      | some found => some found
      | none => again ()
    else
      match again () with
      | some found => some found
      | none => rest place captures

/-- Whether two places of a line, one before and one after a boundary, differ in being words. -/
def isWordBoundary (place : Place) : Bool :=
  place.before.any Text.isWord != place.rest.head?.any Text.isWord

/-- Matches a pattern at a place and then `rest`. -/
def run : Pattern → Place → List Capture → Rest → Option (Place × List Capture)
  | nothing, place, captures, rest => rest place captures
  | char accepts, place, captures, rest =>
    match place.next? with
    | none => none
    | some (c, next) => if accepts c then rest next captures else none
  | seq first second, place, captures, rest =>
    first.run place captures fun place captures => second.run place captures rest
  | alt first second, place, captures, rest =>
    match first.run place captures rest with
    | some found => some found
    | none => second.run place captures rest
  | many lazy body, place, captures, rest =>
    rounds lazy body.run rest (place.rest.length + 1) place captures
  | group index body, place, captures, rest =>
    body.run place captures fun stop captures =>
      rest stop (captures ++ [⟨index, place.offset, stop.offset⟩])
  | ahead expected body, place, captures, rest =>
    if (body.run place captures fun place captures => some (place, captures)).isSome = expected
    then rest place captures else none
  | lineStart, place, captures, rest => if place.offset = 0 then rest place captures else none
  | lineEnd, place, captures, rest =>
    match place.rest with
    | [] | '\n' :: _ => rest place captures
    | _ => none
  | wordBoundary, place, captures, rest =>
    if isWordBoundary place then rest place captures else none

/-- The end of the match that begins at a place, and the groups in it. -/
def matchAt? (pattern : Pattern) (place : Place) : Option (Place × List Capture) :=
  pattern.run place [] fun place captures => some (place, captures)

/-! ## Building patterns -/

/-- One given character. -/
def lit (c : Char) : Pattern := .char (· == c)

/-- One of the given characters. -/
def oneOf (cs : String) : Pattern := .char fun c => cs.toList.contains c

/-- Any character but the given ones. -/
def noneOf (cs : String) : Pattern := .char fun c => !cs.toList.contains c

/-- Any character but a line feed. -/
def any : Pattern := .char (· != '\n')

def digit : Pattern := .char Text.isDigit

def blank : Pattern := .char Text.isBlank

/-- Patterns one after the other. -/
def seqs : List Pattern → Pattern
  | [] => .nothing
  | [p] => p
  | p :: ps => .seq p (seqs ps)

/-- The first of the patterns that fits. -/
def alts : List Pattern → Pattern
  | [] => .ahead false .nothing
  | [p] => p
  | p :: ps => .alt p (alts ps)

/-- A text as it stands. -/
def word (s : String) : Pattern := seqs (s.toList.map lit)

/-- The pattern or nothing. -/
def opt (p : Pattern) : Pattern := .alt p .nothing

def star (p : Pattern) : Pattern := .many false p

def plus (p : Pattern) : Pattern := .seq p (star p)

/-- One round or more, as few as possible. -/
def plusLazy (p : Pattern) : Pattern := .seq p (.many true p)

/-- Exactly `n` rounds. -/
def times (n : Nat) (p : Pattern) : Pattern := seqs (List.replicate n p)

/-- The end of the line together with its line feed. -/
def lineBreak : Pattern := .seq .lineEnd (opt (lit '\n'))

end Pattern

end MarkdownPager
