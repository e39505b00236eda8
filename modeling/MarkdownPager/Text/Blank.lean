/-!
# White space

Colour names, file names and fence info strings are read without the white space around them, and
selectors and info strings are cut into words at it.  White space is the Unicode property
`White_Space`, so the no-break space counts and the zero-width space does not.

The operations work on lists of characters; `trim`, `words` and `firstWord?` give the same on
strings.
-/

namespace MarkdownPager.Text

/-- The characters with the Unicode property `White_Space`. -/
def isBlank (c : Char) : Bool :=
  let n := c.toNat
  (0x09 ≤ n && n ≤ 0x0D) || n == 0x20 || n == 0x85 || n == 0xA0 || n == 0x1680 ||
    (0x2000 ≤ n && n ≤ 0x200A) || n == 0x2028 || n == 0x2029 || n == 0x202F || n == 0x205F ||
    n == 0x3000

/-- The characters without the ones in `drop` at the end. -/
def dropRightWhile (drop : Char → Bool) (cs : List Char) : List Char :=
  (cs.reverse.dropWhile drop).reverse

/-- The characters between the first and the last one that is not white space. -/
def trimChars (cs : List Char) : List Char :=
  dropRightWhile isBlank (cs.dropWhile isBlank)

/-- The text between its first and its last character that is not white space. -/
def trim (s : String) : String :=
  .ofList (trimChars s.toList)

/-- Cuts at every character in `cut`; the cut characters are in no part.  There is always at
least one part, and parts may be empty. -/
def splitWhere (cut : Char → Bool) : List Char → List (List Char)
  | [] => [[]]
  | c :: cs =>
    if cut c then [] :: splitWhere cut cs
    else match splitWhere cut cs with
      | [] => [[c]]
      | part :: parts => (c :: part) :: parts

/-- The maximal runs of characters that are not white space. -/
def wordsOf (cs : List Char) : List (List Char) :=
  (splitWhere isBlank cs).filter (!·.isEmpty)

/-- The words of a text, as `wordsOf` finds them. -/
def words (s : String) : List String :=
  (wordsOf s.toList).map .ofList

/-- The first word of a text, if it has one. -/
def firstWord? (s : String) : Option String :=
  (words s).head?

/-- An ASCII letter in lower case; any other character as it is. -/
def lowerAscii (c : Char) : Char :=
  if 'A' ≤ c ∧ c ≤ 'Z' then Char.ofNat (c.toNat + 32) else c

/-- The text with its ASCII letters in lower case. -/
def lowercase (s : String) : String :=
  .ofList (s.toList.map lowerAscii)

theorem splitWhere_ne_nil (cut : Char → Bool) (cs : List Char) : splitWhere cut cs ≠ [] := by
  cases cs with
  | nil => simp [splitWhere]
  | cons c cs =>
    unfold splitWhere
    split
    · simp
    · split <;> simp

end MarkdownPager.Text
