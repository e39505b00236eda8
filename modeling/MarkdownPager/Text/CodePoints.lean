import MarkdownPager.Text.Blank

/-!
# Sets of code points

A Unicode property is written down as the list of its ranges, in a text of hexadecimal words:
`41-5a` is a range and `5f` a single code point.
-/

namespace MarkdownPager.Text

/-- The value of a hexadecimal digit. -/
def hexDigit? (c : Char) : Option Nat :=
  if '0' ≤ c ∧ c ≤ '9' then some (c.toNat - '0'.toNat)
  else if 'a' ≤ c ∧ c ≤ 'f' then some (c.toNat - 'a'.toNat + 10)
  else if 'A' ≤ c ∧ c ≤ 'F' then some (c.toNat - 'A'.toNat + 10)
  else none

/-- The number that hexadecimal digits spell; other characters count as zero. -/
def hexValue (digits : List Char) : Nat :=
  digits.foldl (fun n c => n * 16 + (hexDigit? c).getD 0) 0

/-- A set of code points, as a list of ranges with both ends included. -/
structure CodePoints where
  ranges : List (Nat × Nat)

namespace CodePoints

/-- Reads ranges such as `41-5a` and single code points such as `5f`, separated by white space. -/
def ofText (s : String) : CodePoints where
  ranges := (wordsOf s.toList).map fun word =>
    match splitWhere (· == '-') word with
    | [first, last] => (hexValue first, hexValue last)
    | _ => (hexValue word, hexValue word)

/-- Whether a character is in one of the ranges. -/
def contains (set : CodePoints) (c : Char) : Bool :=
  set.ranges.any fun (first, last) => first ≤ c.toNat && c.toNat ≤ last

end CodePoints

end MarkdownPager.Text
