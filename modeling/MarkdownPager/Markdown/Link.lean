import MarkdownPager.Markdown.Entity
import MarkdownPager.Markdown.LineEnd
import MarkdownPager.Text.CaseFold

/-!
# Links

The parts of a link are its label, its destination and its title.  A label is compared with others
without regard to case and to the amount of white space in it.  A title is shown nowhere, so only
where it ends is looked for.

Labels stand in running text and in definitions, where lines begin differently: `labelRest?` is
told by its caller what may be skipped at the beginning of a line.
-/

namespace MarkdownPager.Markdown

/-- What a link points to. -/
structure Target where
  url : List Char

namespace Link

/-- Drops the white space in a label, with at most one line end in it.  `lineBegin?` gives what
follows the marks at the beginning of a line, if the label can go on there. -/
def skipLabelSpace? (lineBegin? : List Char → Option (List Char)) :
    Nat → Bool → List Char → Option (List Char)
  | 0, _, _ => none
  | fuel + 1, broken, cs =>
    match cs with
    | [] => some []
    | c :: tail =>
      if isLineEnd c then
        if broken then none
        else
          ((afterLineEnd? cs).bind lineBegin?).bind (skipLabelSpace? lineBegin? fuel true)
      else if isSpace c then skipLabelSpace? lineBegin? fuel broken tail
      else some cs

/-- Puts characters in front of a label that was read. -/
def prepend (front : List Char) : List Char × List Char → List Char × List Char
  | (label, rest) => (front ++ label, rest)

/-- Reads a label up to its closing bracket, white space reduced to single spaces.  `room` is what
is left of the permitted length. -/
def labelFrom? (lineBegin? : List Char → Option (List Char)) :
    Nat → Nat → List Char → Option (List Char × List Char)
  | 0, _, _ => none
  | _ + 1, 0, _ => none
  | fuel + 1, room + 1, cs =>
    match cs with
    | [] => none
    | '[' :: _ => none
    | ']' :: rest => some ([], rest)
    | '\\' :: c :: rest =>
      (labelFrom? lineBegin? fuel (room - 1) rest).map (prepend ['\\', c])
    | c :: tail =>
      if isSpaceOrLineEnd c then
        (skipLabelSpace? lineBegin? (cs.length + 1) false cs).bind fun rest =>
          (labelFrom? lineBegin? fuel (room + 1 - taken cs rest) rest).map (prepend [' '])
      else
        let room := if c.toNat < 128 then room + 1 else room + 1 - c.utf8Size
        (labelFrom? lineBegin? fuel room tail).map (prepend [c])

/-- The label without white space at its ends. -/
def trimLabel (label : List Char) : List Char :=
  Text.dropRightWhile isSpaceOrLineEnd (label.dropWhile isSpaceOrLineEnd)

/-- Reads a label from behind its opening bracket: the label and what follows the closing one.  A
label has something in it besides white space. -/
def labelRest? (lineBegin? : List Char → Option (List Char)) (cs : List Char) :
    Option (List Char × List Char) :=
  match labelFrom? lineBegin? (cs.length + 1) 1000 cs with
  | none => none
  | some (label, rest) =>
    let label := trimLabel label
    if label.isEmpty then none else some (label, rest)

/-- Refuses a line end in a label. -/
def noLineEnd (_ : List Char) : Option (List Char) := none

/-- The form in which labels are compared. -/
def labelKey (label : List Char) : List Char :=
  label.flatMap Text.foldCase

/-- Whether a backslash makes the next character ordinary. -/
def isEscape (c : Char) (next : List Char) : Bool :=
  c == '\\' && next.head?.any Text.isAsciiPunctuation

/-- Reads a destination from behind its opening angle bracket; a character that is `kept` stands
for itself. -/
def bracketedDestination? (kept : Bool) : List Char → Option (List Char × List Char)
  | [] => none
  | c :: cs =>
    if kept then (bracketedDestination? false cs).map (prepend [c])
    else if isLineEnd c || c == '<' then none
    else if c == '>' then some ([], cs)
    else (bracketedDestination? (isEscape c cs) cs).map (prepend [c])

/-- Reads a destination without brackets around it, up to a blank or to a parenthesis that closes
none in it; `depth` counts the open ones. -/
def bareDestination? (kept : Bool) (depth : Nat) : List Char → Option (List Char × List Char)
  | [] => if depth = 0 then some ([], []) else none
  | c :: cs =>
    if kept then (bareDestination? false depth cs).map (prepend [c])
    else if c.toNat ≤ 32 then if depth = 0 then some ([], c :: cs) else none
    else if c == '(' then
      if 32 < depth then none else (bareDestination? false (depth + 1) cs).map (prepend [c])
    else if c == ')' then
      if depth = 0 then some ([], c :: cs)
      else (bareDestination? false (depth - 1) cs).map (prepend [c])
    else (bareDestination? (isEscape c cs) depth cs).map (prepend [c])

/-- Reads a destination: its text as written, and what follows. -/
def destination? (cs : List Char) : Option (List Char × List Char) :=
  match cs with
  | '<' :: cs => bracketedDestination? false cs
  | cs => bareDestination? false 0 cs

/-- The character that closes a title. -/
def titleEnd? (c : Char) : Option Char :=
  if c == '"' || c == '\'' then some c else if c == '(' then some ')' else none

/-- Where a character of a title stands. -/
inductive TitlePlace where
  /-- Behind the blanks at the beginning of a line, or among them. -/
  | lineBegin
  | inside
  /-- Behind a backslash that makes it ordinary. -/
  | kept

/-- What follows a title, from behind its first character on.  At the beginning of a line blanks
are dropped, and so is a backslash before punctuation: it does not keep the character from ending
the title. -/
def afterTitle? (opening closing : Char) : TitlePlace → List Char → Option (List Char)
  | _, [] => none
  | .kept, _ :: cs => afterTitle? opening closing .inside cs
  | place, c :: cs =>
    if c == closing then some cs
    else if c == opening then none
    else if isLineEnd c then
      let place := if c == '\r' && cs.head? == some '\n' then .inside else .lineBegin
      afterTitle? opening closing place cs
    else match place with
      | .lineBegin =>
        let place := if c == ' ' || c == '\t' then .lineBegin else .inside
        afterTitle? opening closing place cs
      | _ =>
        let place := if isEscape c cs then .kept else .inside
        afterTitle? opening closing place cs

/-- What follows a title in running text. -/
def title? (cs : List Char) : Option (List Char) :=
  match cs with
  | [] => none
  | c :: cs => (titleEnd? c).bind fun closing => afterTitle? c closing .inside cs

/-- Drops blanks with at most one line end among them. -/
def skipSpace (cs : List Char) : List Char :=
  let rest := dropSpaces cs
  match afterLineEnd? rest with
  | some rest => dropSpaces rest
  | none => rest

/-- Reads destination and title in parentheses, from behind a label on: where the link points to,
and what follows. -/
def target? (cs : List Char) : Option (Target × List Char) :=
  match cs with
  | '(' :: cs =>
    (destination? (skipSpace cs)).bind fun (url, rest) =>
      let rest := skipSpace rest
      let rest := match title? rest with
        | some behind => skipSpace behind
        | none => rest
      match rest with
      | ')' :: rest => some (⟨unescape url⟩, rest)
      | _ => none
  | _ => none

/-- What follows the title of a definition, from behind its first character on.  A backslash keeps
the next character from ending it, whatever it is, and an empty line is refused. -/
def afterDefinitionTitle? (closing : Char) (kept : Bool) : List Char → Option (List Char)
  | [] => none
  | c :: cs =>
    if kept then afterDefinitionTitle? closing false cs
    else if c == closing then some cs
    else if c == '\n' && (dropSpaces cs).head? == some '\n' then none
    else afterDefinitionTitle? closing (c == '\\') cs

/-- What follows the title of a definition. -/
def definitionTitle? (cs : List Char) : Option (List Char) :=
  match cs with
  | [] => none
  | c :: cs => (titleEnd? c).bind fun closing => afterDefinitionTitle? closing false cs

end Link

end MarkdownPager.Markdown
