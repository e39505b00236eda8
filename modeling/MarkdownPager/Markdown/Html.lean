import MarkdownPager.Markdown.LineEnd
import MarkdownPager.Text.Blank
import MarkdownPager.Text.Word

/-!
# HTML

Markdown lets HTML through: a tag, comment, instruction, declaration or character section inside a
line, and blocks that begin with one.  All functions look at the text behind the opening angle
bracket and give what follows the construct, or nothing where there is none.

A tag may reach over line ends only if `newlines` allows it.  The tag that opens a block of its own
must stand in one line.
-/

namespace MarkdownPager.Markdown

namespace Html

/-- What follows the white space at the beginning; line ends count only if they are allowed. -/
def skipSpace? (newlines : Bool) (cs : List Char) : Option (List Char) :=
  if newlines then some (cs.dropWhile isSpaceOrLineEnd)
  else
    let rest := dropSpaces cs
    if rest.head?.any isLineEnd then none else some rest

/-- What follows a tag name. -/
def tagName? (cs : List Char) : Option (List Char) :=
  match cs with
  | [] => none
  | c :: cs =>
    if Text.isAsciiLetter c then
      some (cs.dropWhile fun c => Text.isAsciiAlphanumeric c || c == '-')
    else none

/-- A character that can stand in an attribute name. -/
def isAttributeNameChar (c : Char) : Bool :=
  Text.isAsciiAlphanumeric c || c == '_' || c == '.' || c == ':' || c == '-'

/-- A character that can begin an attribute name. -/
def isAttributeNameStart (c : Char) : Bool :=
  Text.isAsciiLetter c || c == '_' || c == ':'

/-- A character of an attribute value without quotes. -/
def isBareValueChar (c : Char) : Bool :=
  !(isLineEnd c || c == ' ' || c == '"' || c == '\'' || c == '=' || c == '<' || c == '>' ||
    c == '`')

/-- What follows the closing quote. -/
def afterQuote? (newlines : Bool) (quote : Char) : List Char → Option (List Char)
  | [] => none
  | c :: cs =>
    if c == quote then some cs
    else if isLineEnd c && !newlines then none
    else afterQuote? newlines quote cs

/-- What follows an attribute value. -/
def attributeValue? (newlines : Bool) (cs : List Char) : Option (List Char) :=
  match cs with
  | [] => none
  | c :: rest =>
    if c == '"' || c == '\'' then afterQuote? newlines c rest
    else if isBareValueChar c then some (cs.dropWhile isBareValueChar)
    else none

/-- What follows an attribute with its value, if it has one. -/
def attribute? (newlines : Bool) (cs : List Char) : Option (List Char) :=
  match cs with
  | [] => none
  | c :: tail =>
    if isAttributeNameStart c then
      let rest := tail.dropWhile isAttributeNameChar
      (skipSpace? newlines rest).bind fun behind =>
        match behind with
        | '=' :: value => (skipSpace? newlines value).bind (attributeValue? newlines)
        | _ => some rest
    else none

/-- What follows the attributes of a tag.  White space stands before each of them; `fuel` bounds
their number. -/
def attributes? (newlines : Bool) : Nat → List Char → Option (List Char)
  | 0, _ => none
  | fuel + 1, cs =>
    (skipSpace? newlines cs).bind fun rest =>
      match rest with
      | '/' :: _ | '>' :: _ => some rest
      | _ =>
        if rest.length = cs.length then none
        else (attribute? newlines rest).bind (attributes? newlines fuel)

/-- What follows an opening or closing tag. -/
def tag? (newlines : Bool) (cs : List Char) : Option (List Char) :=
  match cs with
  | '/' :: cs =>
    (tagName? cs).bind fun rest =>
      match dropSpaces rest with
      | '>' :: rest => some rest
      | _ => none
  | cs =>
    (tagName? cs).bind fun rest =>
      (attributes? newlines (rest.length + 1) rest).bind fun rest =>
        match rest with
        | '>' :: rest => some rest
        | '/' :: '>' :: rest => some rest
        | _ => none

/-- What follows the first place where `word` stands. -/
def afterFirst? (word : List Char) : List Char → Option (List Char)
  | [] => none
  | c :: cs =>
    if word.isPrefixOf (c :: cs) then some ((c :: cs).drop word.length) else afterFirst? word cs

/-- What follows a comment, from behind `<!--` on.  The text of a comment begins neither with `>`
nor with `->`, and the first two hyphens in it end it. -/
def comment? (cs : List Char) : Option (List Char) :=
  match cs with
  | '>' :: _ | '-' :: '>' :: _ => none
  | cs =>
    match afterFirst? ['-', '-'] cs with
    | some ('>' :: rest) => some rest
    | _ => none

/-- What follows a character section, from behind `<![CDATA[` on.  The first closing brackets in it
end it. -/
def characterSection? (cs : List Char) : Option (List Char) :=
  match (cs.dropWhile (· != ']')).dropWhile (· == ']') with
  | '>' :: rest => some rest
  | _ => none

/-- What follows a comment, character section, declaration or instruction. -/
def special? (cs : List Char) : Option (List Char) :=
  match cs with
  | '?' :: cs => afterFirst? ['?', '>'] cs
  | '!' :: '-' :: '-' :: cs => comment? cs
  | '!' :: '[' :: cs =>
    if startsWith "CDATA[" cs then characterSection? (cs.drop 6) else none
  | '!' :: c :: cs => if Text.isAsciiLetter c then afterFirst? ['>'] cs else none
  | _ => none

/-- The text without `word` at its beginning, small and capital ASCII letters taken for the
same. -/
def dropWord? (word : String) (cs : List Char) : Option (List Char) :=
  let n := word.toList.length
  if (cs.take n).map Text.lowerAscii = word.toList then some (cs.drop n) else none

/-- Whether a tag name ends here. -/
def endsName (cs : List Char) : Bool :=
  match cs with
  | [] => true
  | c :: _ => isSpaceOrLineEnd c || c == '>'

/-- The tags whose content is no Markdown. -/
def verbatimTags : List String := ["pre", "style", "script", "textarea"]

/-- The text that ends the block beginning here, for the blocks that only such a text ends. -/
def blockEnd? (cs : List Char) : Option String :=
  match verbatimTags.find? fun tag => (dropWord? tag cs).any endsName with
  | some tag => some ("</" ++ tag ++ ">")
  | none =>
    if startsWith "!--" cs then some "-->"
    else if startsWith "?" cs then some "?>"
    else if startsWith "![CDATA[" cs then some "]]>"
    else match cs with
      | '!' :: c :: _ => if Text.isAsciiLetter c then some ">" else none
      | _ => none

/-- The tags that begin a block wherever they stand at the beginning of a line. -/
def blockTags : List String :=
  ["address", "article", "aside", "base", "basefont", "blockquote", "body", "caption", "center",
    "col", "colgroup", "dd", "details", "dialog", "dir", "div", "dl", "dt", "fieldset",
    "figcaption", "figure", "footer", "form", "frame", "frameset", "h1", "h2", "h3", "h4", "h5",
    "h6", "head", "header", "hr", "html", "iframe", "legend", "li", "link", "main", "menu",
    "menuitem", "nav", "noframes", "ol", "optgroup", "option", "p", "param", "section", "source",
    "summary", "table", "tbody", "td", "tfoot", "th", "thead", "title", "tr", "track", "ul"]

/-- Whether a tag begins here that begins a block. -/
def startsBlockTag (cs : List Char) : Bool :=
  let cs := match cs with
    | '/' :: cs => cs
    | cs => cs
  let name := cs.takeWhile Text.isAsciiAlphanumeric
  blockTags.contains (.ofList (name.map Text.lowerAscii)) &&
    match cs.drop name.length with
    | [] => true
    | '/' :: '>' :: _ => true
    | c :: _ => c == ' ' || c == '\t' || isLineEnd c || c == '>'

/-- Whether any other tag stands here alone in its line. -/
def isLoneTag (cs : List Char) : Bool :=
  (tag? false cs).any isBlankLine

end Html

end MarkdownPager.Markdown
