/-!
# Blanks and line ends

Marks that give a Markdown text its structure know two kinds of white space: blanks, which stay in
their line, and line ends.  A line ends in a line feed, in a carriage return, or in both together,
and the end of the text ends a line too.

The functions here look at the beginning of a list of characters and count or drop what they find.
-/

namespace MarkdownPager.Markdown

/-- Tab, vertical tab, form feed and space. -/
def isSpace (c : Char) : Bool :=
  c == ' ' || c == '\t' || c == '\x0b' || c == '\x0c'

/-- A character that ends a line. -/
def isLineEnd (c : Char) : Bool :=
  c == '\n' || c == '\r'

/-- A blank or a character that ends a line. -/
def isSpaceOrLineEnd (c : Char) : Bool :=
  isSpace c || isLineEnd c

/-- What follows the line end at the beginning, if there is one.  Nothing is left after the end of
the text. -/
def afterLineEnd? : List Char → Option (List Char)
  | [] => some []
  | '\r' :: '\n' :: cs => some cs
  | c :: cs => if isLineEnd c then some cs else none

/-- Whether the line ends here. -/
def atLineEnd (cs : List Char) : Bool :=
  match cs with
  | [] => true
  | c :: _ => isLineEnd c

/-- What follows the blanks at the beginning. -/
def dropSpaces (cs : List Char) : List Char :=
  cs.dropWhile isSpace

/-- What follows the line, if there are only blanks left in it. -/
def afterBlankLine? (cs : List Char) : Option (List Char) :=
  afterLineEnd? (dropSpaces cs)

/-- Whether there are only blanks left in the line. -/
def isBlankLine (cs : List Char) : Bool :=
  atLineEnd (dropSpaces cs)

/-- The number of times a character stands at the beginning. -/
def countLeading (c : Char) (cs : List Char) : Nat :=
  (cs.takeWhile (· == c)).length

/-- How many characters were taken from `before` to leave `after`. -/
def taken (before after : List Char) : Nat :=
  before.length - after.length

/-- Whether `word` stands at the beginning. -/
def startsWith (word : String) (cs : List Char) : Bool :=
  word.toList.isPrefixOf cs

end MarkdownPager.Markdown
