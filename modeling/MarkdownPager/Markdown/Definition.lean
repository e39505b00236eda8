import MarkdownPager.Markdown.Container

/-!
# Link definitions

A definition says where a label points to: a label in brackets, a colon, a destination, and a
title that may be missing.  Label and destination may stand on different lines, as long as the
lines between them go on with the text, and so may destination and title.

A title that cannot be read on a line of its own is no part of the definition, and then the text
goes on with that line.  Titles are shown nowhere, but they count for the length of what a label
stands for.
-/

namespace MarkdownPager.Markdown

/-- A definition, and the text behind it. -/
structure LinkDefinition where
  label : List Char
  url : List Char
  /-- The title, empty if there is none. -/
  title : List Char
  rest : List Char

namespace LinkDefinition

/-- What follows the marks at the beginning of a line, if a label can go on there. -/
def labelLine? (containers : List Container) (cs : List Char) : Option (List Char) :=
  let line := Container.continuation containers (.lineAt 0 cs)
  if line.deep || line.ends containers then none else some line.indented.rest

/-- Drops blanks, with at most as many line ends among them as `lines` says: how many line ends
there were, and what follows.  Nothing if there are more or the text ends on the way. -/
def skipSpace? (containers : List Container) : Nat → List Char → Option (Nat × List Char)
  | lines, cs =>
    let rest := dropSpaces cs
    match afterLineEnd? rest with
    | none => some (0, rest)
    | some next =>
      match lines with
      | 0 => none
      | lines + 1 =>
        let line := Container.continuation containers (.lineAt 0 next)
        if !line.deep && line.ends containers then none
        else
          (skipSpace? containers lines line.indented.rest).map fun (count, rest) =>
            (count + 1, rest)

/-- The title of a definition as written, and what follows it and its line; nothing if there is
none or something stands behind it. -/
def title? (cs : List Char) : Option (List Char × List Char) :=
  (Link.definitionTitle? cs).bind fun rest =>
    if isBlankLine rest then some (((cs.take (taken cs rest)).drop 1).dropLast, rest) else none

/-- The title and what follows a definition whose destination has been read. -/
def afterDestination? (containers : List Container) (cs : List Char) :
    Option (List Char × List Char) :=
  match skipSpace? containers 1 cs with
  | none => some ([], cs)
  | some (lines, rest) =>
    if lines = 0 && rest.length = cs.length then none
    else
      match title? rest with
      | some titled => some titled
      | none => if lines = 0 then none else some ([], cs)

/-- Reads a definition, if one stands here. -/
def read? (containers : List Container) (cs : List Char) : Option LinkDefinition :=
  match cs with
  | '[' :: cs =>
    match Link.labelRest? (labelLine? containers) cs with
    | some (label, ':' :: rest) =>
      (skipSpace? containers 1 rest).bind fun (_, start) =>
        (Link.destination? start).bind fun (url, rest) =>
          if rest.length = start.length then none
          else
            (afterDestination? containers rest).map fun (title, rest) =>
              ⟨label, unescape url, unescape title, rest⟩
    | _ => none
  | _ => none

end LinkDefinition

end MarkdownPager.Markdown
