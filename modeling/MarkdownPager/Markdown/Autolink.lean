import MarkdownPager.Markdown.LineEnd
import MarkdownPager.Text.Word

/-!
# Autolinks

A web address or a mail address between angle brackets is a link to itself.  A web address has a
scheme of two to thirty-two characters and then anything but blanks and angle brackets.  The labels
of a mail address have at most sixty-three characters, and no hyphen at either end.
-/

namespace MarkdownPager.Markdown

/-- A character that can follow the first letter of a scheme. -/
def isSchemeChar (c : Char) : Bool :=
  Text.isAsciiAlphanumeric c || c == '.' || c == '-' || c == '+'

/-- A character that a web address has none of. -/
def endsAddress (c : Char) : Bool :=
  c.toNat ≤ 32 || c == '<' || c == '>'

/-- Reads a web address and the bracket behind it: the address and what follows. -/
def webAddress? (cs : List Char) : Option (List Char × List Char) :=
  match cs with
  | [] => none
  | first :: tail =>
    let scheme := first :: tail.takeWhile isSchemeChar
    if Text.isAsciiLetter first && 2 ≤ scheme.length && scheme.length ≤ 32 then
      match cs.drop scheme.length with
      | ':' :: rest =>
        let path := rest.takeWhile fun c => !endsAddress c
        match rest.drop path.length with
        | '>' :: rest => some (scheme ++ ':' :: path, rest)
        | _ => none
      | _ => none
    else none

/-- A character that can stand before the `@` of a mail address. -/
def isMailboxChar (c : Char) : Bool :=
  Text.isAsciiAlphanumeric c || ".!#$%&'*+/=?^_`\x7b|\x7d~-".toList.contains c

/-- Whether a label of a domain is one. -/
def isDomainLabel (label : List Char) : Bool :=
  label != [] && label.length ≤ 63 && label.head? != some '-' && label.getLast? != some '-'

/-- Reads the labels of a domain, separated by dots: what they take and what follows. -/
def domain? : Nat → List Char → Option (List Char × List Char)
  | 0, _ => none
  | fuel + 1, cs =>
    let label := cs.takeWhile fun c => Text.isAsciiAlphanumeric c || c == '-'
    if isDomainLabel label then
      match cs.drop label.length with
      | '.' :: rest => (domain? fuel rest).map fun (more, rest) => (label ++ '.' :: more, rest)
      | rest => some (label, rest)
    else none

/-- Reads a mail address and the bracket behind it: the address and what follows. -/
def mailAddress? (cs : List Char) : Option (List Char × List Char) :=
  let mailbox := cs.takeWhile isMailboxChar
  match cs.drop mailbox.length with
  | '@' :: rest =>
    if mailbox.isEmpty then none
    else match domain? (rest.length + 1) rest with
      | some (domain, '>' :: rest) => some (mailbox ++ '@' :: domain, rest)
      | _ => none
  | _ => none

/-- Reads an address from behind an opening angle bracket on: the address and what follows the
closing bracket. -/
def autolink? (cs : List Char) : Option (List Char × List Char) :=
  match webAddress? cs with
  | some found => some found
  | none => mailAddress? cs

end MarkdownPager.Markdown
