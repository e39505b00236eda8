/-!
# Colours and appearance

A colour is three channels of eight bits.  It is written as a hash sign and six lower-case
hexadecimal digits.  An appearance says whether the terminal is light or dark, which decides the
foreground of text that no theme rule colours.
-/

namespace MarkdownPager

/-- A colour by its red, green and blue channels. -/
structure Rgb where
  r : UInt8
  g : UInt8
  b : UInt8
  deriving DecidableEq, Repr, Inhabited

namespace Rgb

def black : Rgb := ⟨0x00, 0x00, 0x00⟩

def white : Rgb := ⟨0xff, 0xff, 0xff⟩

/-- The lower-case hexadecimal digit of a value below sixteen. -/
def hexChar (n : Nat) : Char :=
  if n < 10 then Char.ofNat (n + '0'.toNat) else Char.ofNat (n - 10 + 'a'.toNat)

/-- The two hexadecimal digits of a channel. -/
def hexPair (channel : UInt8) : List Char :=
  [hexChar (channel.toNat / 16), hexChar (channel.toNat % 16)]

/-- The colour as `#rrggbb`. -/
def toHex (c : Rgb) : String :=
  .ofList ('#' :: hexPair c.r ++ hexPair c.g ++ hexPair c.b)

end Rgb

/-- Whether text is shown on a light or on a dark ground. -/
inductive Appearance where
  | light
  | dark
  deriving DecidableEq, Repr, Inhabited

namespace Appearance

/-- The foreground of text whose style leaves it open or names no usable colour. -/
def defaultForeground : Appearance → Rgb
  | light => .black
  | dark => .white

/-- The other appearance. -/
def toggled : Appearance → Appearance
  | light => dark
  | dark => light

end Appearance

end MarkdownPager
