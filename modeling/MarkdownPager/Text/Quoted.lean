import MarkdownPager.Text.Lines
import MarkdownPager.Text.Printable

/-!
# Quoted texts

An error message shows a text between double quotes.  The quote and the backslash are escaped by a
backslash, as are tab, line feed, carriage return and the null character, which are spelt `\t`,
`\n`, `\r` and `\0`; a character that is not printable is spelt by its code point in lower-case
hexadecimal without leading zeros.
-/

namespace MarkdownPager.Text

/-- How a quoted text shows one character. -/
def quotedChar (c : Char) : List Char :=
  match c with
  | '"' => ['\\', '"']
  | '\\' => ['\\', '\\']
  | '\n' => ['\\', 'n']
  | '\r' => ['\\', 'r']
  | '\t' => ['\\', 't']
  | '\x00' => ['\\', '0']
  | _ =>
    if isPrintable c then [c]
    else ['\\', 'u', '\x7b'] ++ Nat.toDigits 16 c.toNat ++ ['\x7d']

/-- The text between double quotes, with escapes. -/
def quoted (s : String) : String :=
  .ofList ('"' :: s.toList.flatMap quotedChar ++ ['"'])

end MarkdownPager.Text
