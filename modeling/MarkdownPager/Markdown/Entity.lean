import MarkdownPager.Markdown.EntityTable
import MarkdownPager.Text.Punctuation
import MarkdownPager.Text.Word

/-!
# Character references and escapes

A character reference stands for a character by name (`&amp;`), by a decimal number (`&#38;`, at
most seven digits) or by a hexadecimal one (`&#x26;`, at most six).  Zero and numbers that are no
character stand for the replacement character.

A backslash before ASCII punctuation makes that character ordinary.  `unescape` resolves both in
link destinations and info strings.
-/

namespace MarkdownPager.Markdown

/-- The character that a number stands for. -/
def charOfNumber (n : Nat) : Char :=
  if n = 0 || !decide n.isValidChar then '\ufffd' else Char.ofNat n

/-- The value of decimal digits. -/
def decimalValue (digits : List Char) : Nat :=
  digits.foldl (fun n c => n * 10 + (c.toNat - '0'.toNat)) 0

/-- Whether a character is a hexadecimal digit. -/
def isHexDigit (c : Char) : Bool := (Text.hexDigit? c).isSome

/-- The character of a numeric reference and what follows it, from behind the digits on. -/
def closeNumber? (digits : List Char) (value : Nat) (rest : List Char) :
    Option (List Char × List Char) :=
  match rest with
  | ';' :: rest => if digits.isEmpty then none else some ([charOfNumber value], rest)
  | _ => none

/-- Reads a numeric reference from behind `&#` on. -/
def numberReference? (cs : List Char) : Option (List Char × List Char) :=
  match cs with
  | 'x' :: cs | 'X' :: cs =>
    let digits := (cs.take 6).takeWhile isHexDigit
    closeNumber? digits (Text.hexValue digits) (cs.drop digits.length)
  | cs =>
    let digits := (cs.take 7).takeWhile Text.isAsciiDigit
    closeNumber? digits (decimalValue digits) (cs.drop digits.length)

/-- Reads a character reference from behind `&` on: what it stands for and what follows it. -/
def reference? (cs : List Char) : Option (List Char × List Char) :=
  match cs with
  | '#' :: cs => numberReference? cs
  | cs =>
    let name := cs.takeWhile Text.isAsciiAlphanumeric
    match cs.drop name.length with
    | ';' :: rest => (entities.lookup name).map (·, rest)
    | _ => none

/-- Resolves escapes and character references, and leaves carriage returns out; `fuel` bounds the
number of characters read. -/
def unescapeFrom : Nat → List Char → List Char
  | 0, _ => []
  | _ + 1, [] => []
  | fuel + 1, '\\' :: c :: cs =>
    if Text.isAsciiPunctuation c then c :: unescapeFrom fuel cs
    else '\\' :: unescapeFrom fuel (c :: cs)
  | fuel + 1, '&' :: cs =>
    match reference? cs with
    | some (value, rest) => value ++ unescapeFrom fuel rest
    | none => '&' :: unescapeFrom fuel cs
  | fuel + 1, '\r' :: cs => unescapeFrom fuel cs
  | fuel + 1, c :: cs => c :: unescapeFrom fuel cs

/-- A text with its escapes and character references resolved. -/
def unescape (cs : List Char) : List Char :=
  unescapeFrom cs.length cs

end MarkdownPager.Markdown
