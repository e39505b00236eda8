import MarkdownPager.Text.Blank

/-!
# File paths

A path is a text with slashes between its parts.  Empty parts and parts that are a single dot mean
nothing, except for a dot at the very beginning and for the slash that makes a path absolute.
-/

namespace MarkdownPager.Path

/-- Whether a path begins at the root. -/
def isAbsolute (path : List Char) : Bool := path.head? == some '/'

/-- The number of characters at the beginning that stand for the root or for a leading dot. -/
def anchorLength (path : List Char) : Nat :=
  match path with
  | '/' :: _ => 1
  | ['.'] | '.' :: '/' :: _ => 1
  | _ => 0

/-- The last part of a path behind its anchor, and the path without it and the slash before it.
Both lists are reversed. -/
def splitLast (reversed : List Char) : List Char × List Char :=
  (reversed.takeWhile (· != '/'), (reversed.dropWhile (· != '/')).drop 1)

/-- Whether a part means nothing. -/
def isVoid (part : List Char) : Bool := part.isEmpty || part == ['.']

/-- The path without the parts at its end that mean nothing; reversed, and without its anchor. -/
def trimEnd : Nat → List Char → List Char
  | 0, reversed => reversed
  | fuel + 1, reversed =>
    if reversed.isEmpty then []
    else
      let (part, front) := splitLast reversed
      if isVoid part then trimEnd fuel front else reversed

/-- The path that a file stands in.  The root and the empty path stand in none. -/
def parent? (path : String) : Option String :=
  let cs := path.toList
  let anchor := cs.take (anchorLength cs)
  let reversed := (cs.drop anchor.length).reverse
  match trimEnd reversed.length reversed with
  | [] => if anchor == ['.'] then some "" else none
  | reversed =>
    let front := (splitLast reversed).2
    some (.ofList (anchor ++ (trimEnd front.length front).reverse))

/-- A path that starts where another one leads. -/
def join (directory path : String) : String :=
  let front := directory.toList
  if isAbsolute path.toList then path
  else if front.isEmpty || front.getLast? == some '/' then directory ++ path
  else directory ++ "/" ++ path

end MarkdownPager.Path
