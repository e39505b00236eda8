/-!
# Byte offsets

Spans and tokens are given in bytes of the UTF-8 form.  An offset is usable only where a character
begins or the text ends; `dropBytes` and `takeBytes` cut a character list at such an offset and
refuse every other, and `slice?` cuts a text at two of them.
-/

namespace MarkdownPager.Text

/-- The length of a character list in bytes. -/
def byteLength : List Char → Nat
  | [] => 0
  | c :: cs => c.utf8Size + byteLength cs

/-- What is left of a character list after its first `n` bytes; nothing if the list is shorter or
byte `n` lies inside a character. -/
def dropBytes : Nat → List Char → Option (List Char)
  | 0, cs => some cs
  | _ + 1, [] => none
  | n + 1, c :: cs => if c.utf8Size ≤ n + 1 then dropBytes (n + 1 - c.utf8Size) cs else none

/-- The characters in the first `n` bytes; nothing if the list is shorter or byte `n` lies inside
a character. -/
def takeBytes : Nat → List Char → Option (List Char)
  | 0, _ => some []
  | _ + 1, [] => none
  | n + 1, c :: cs =>
    if c.utf8Size ≤ n + 1 then (takeBytes (n + 1 - c.utf8Size) cs).map (c :: ·) else none

/-- The text from byte `start` up to byte `stop`; nothing if the offsets are out of order, beyond
the end or inside a character. -/
def slice? (s : String) (start stop : Nat) : Option String :=
  if start ≤ stop then
    ((dropBytes start s.toList).bind (takeBytes (stop - start))).map .ofList
  else none

/-- The offset of the last occurrence of a character. -/
def lastOffsetOf? (target : Char) : List Char → Option Nat
  | [] => none
  | c :: cs =>
    match lastOffsetOf? target cs with
    | some n => some (c.utf8Size + n)
    | none => if c = target then some 0 else none

/-- The byte at an offset. -/
def byteAt? (s : String) (i : Nat) : Option UInt8 :=
  s.toUTF8[i]?

end MarkdownPager.Text
