import MarkdownPager.Text.Blank

/-!
# Lines

A text is cut into lines at line feeds only: a carriage return stays in its line, and a text that
ends in a line feed has an empty last line.  `join` puts a separator between texts and nothing
after the last, so joining the lines of a text with line feeds gives the text back.
-/

namespace MarkdownPager.Text

/-- The lines of a character list, cut at line feeds. -/
def linesOf (cs : List Char) : List (List Char) :=
  splitWhere (· == '\n') cs

/-- The lines of a text, cut at line feeds. -/
def lines (s : String) : List String :=
  (linesOf s.toList).map .ofList

/-- The texts with `separator` between neighbours. -/
def join (separator : String) : List String → String
  | [] => ""
  | [s] => s
  | s :: t :: rest => s ++ separator ++ join separator (t :: rest)

/-- The texts one after the other. -/
def concat : List String → String
  | [] => ""
  | s :: rest => s ++ concat rest

/-- The text with one final line feed taken away, if it has one. -/
def dropFinalNewline (s : String) : String :=
  match s.toList.reverse with
  | '\n' :: rest => .ofList rest.reverse
  | _ => s

end MarkdownPager.Text
