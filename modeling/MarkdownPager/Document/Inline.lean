import MarkdownPager.Text.Lines

/-!
# Inlines

The content of a paragraph or heading: pieces of text, markup around further inlines, and marks
without content.  `Inline.plainText` reads a list of them without its markup; it is the label of
a link and the description of an image.
-/

namespace MarkdownPager

/-- A piece of running text. -/
inductive Inline where
  | text (text : String)
  | code (text : String)
  | emphasis (children : List Inline)
  | strong (children : List Inline)
  | strikethrough (children : List Inline)
  | link (url : String) (children : List Inline)
  | image (url alt : String)
  | softBreak
  | hardBreak
  | html (text : String)
  | taskMarker (done : Bool)
  | footnoteRef (name : String)
  deriving Repr, BEq, Inhabited

namespace Inline

/-- The box that a task marker shows. -/
def taskBox (done : Bool) : String :=
  if done then "[x] " else "[ ] "

/-- How a reference to a footnote is shown. -/
def footnoteMark (name : String) : String :=
  "[^" ++ name ++ "]"

mutual

/-- One inline without its markup. -/
def plain : Inline → String
  | text t | code t | html t => t
  | emphasis children | strong children | strikethrough children | link _ children =>
    plainText children
  | image _ alt => alt
  | softBreak => " "
  | hardBreak => "\n"
  | taskMarker done => taskBox done
  | footnoteRef name => footnoteMark name

/-- A list of inlines without their markup: a soft break is a space and a hard break a line
feed. -/
def plainText : List Inline → String
  | [] => ""
  | inline :: rest => inline.plain ++ plainText rest

end

end Inline

end MarkdownPager
