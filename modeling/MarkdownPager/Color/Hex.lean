import MarkdownPager.Color.Basic
import MarkdownPager.Error
import MarkdownPager.Text.CodePoints

/-!
# Hexadecimal colours

A hexadecimal colour is three, six or eight hexadecimal digits, in either case, with white space
around them and at most one hash sign in front.  Three digits stand for doubled ones, and the last
pair of eight, the opacity, is ignored.  A character that is no digit is the fault reported even
when the length is wrong too.
-/

namespace MarkdownPager.Rgb

/-- The text of a colour without surrounding white space and without one leading hash sign. -/
def hexDigitsOf (input : String) : List Char :=
  match Text.trimChars input.toList with
  | '#' :: digits => digits
  | digits => digits

/-- The channel that two digits spell. -/
def channel (high low : Nat) : UInt8 :=
  .ofNat (high * 16 + low)

/-- The colour that a list of digit values spells, by their number. -/
def ofDigits? : List Nat → Option Rgb
  | [r, g, b] => some ⟨channel r r, channel g g, channel b b⟩
  | [r₁, r₀, g₁, g₀, b₁, b₀] => some ⟨channel r₁ r₀, channel g₁ g₀, channel b₁ b₀⟩
  | [r₁, r₀, g₁, g₀, b₁, b₀, _, _] => some ⟨channel r₁ r₀, channel g₁ g₀, channel b₁ b₀⟩
  | _ => none

/-- Reads a hexadecimal colour. -/
def parseHex (input : String) : Except Error Rgb :=
  match (hexDigitsOf input).mapM Text.hexDigit? with
  | none => .error (.invalidColor input .badDigit)
  | some digits =>
    match ofDigits? digits with
    | some color => .ok color
    | none => .error (.invalidColor input .badLength)

end MarkdownPager.Rgb
