import MarkdownPager.Text.Word

/-!
# Counts

A count is written in decimal digits, of which there is at least one, and may have a plus sign
before it.  It has to fit into 64 bits.  The first character that breaks these rules decides which
of them is broken.
-/

namespace MarkdownPager

/-- Why a text is no count. -/
inductive CountFault where
  | empty
  | invalidDigit
  | tooLarge
  deriving DecidableEq, Repr

/-- The wording of a count fault. -/
def CountFault.message : CountFault → String
  | .empty => "cannot parse integer from empty string"
  | .invalidDigit => "invalid digit found in string"
  | .tooLarge => "number too large to fit in target type"

namespace Count

/-- The first number that is too large. -/
def limit : Nat := UInt64.size

/-- Reads the digits of a count, where `value` is the number before them. -/
def readDigits (value : Nat) : List Char → Except CountFault Nat
  | [] => .ok value
  | c :: cs =>
    if Text.isAsciiDigit c then
      let next := 10 * value + (c.toNat - '0'.toNat)
      if next < limit then readDigits next cs else .error .tooLarge
    else .error .invalidDigit

/-- Reads a count. -/
def read (text : String) : Except CountFault Nat :=
  match text.toList with
  | [] => .error .empty
  | ['+'] => .error .invalidDigit
  | '+' :: digits | digits => readDigits 0 digits

end Count

end MarkdownPager
