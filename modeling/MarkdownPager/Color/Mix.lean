import MarkdownPager.Color.Basic

/-!
# Mixing colours

The colour a given part of the way from one colour to another, channel by channel, in single
precision.  The part is held between zero and one, an undefined part counts as zero, and a channel
halfway between two values goes to the larger.
-/

namespace MarkdownPager.Rgb

/-- The part of the way, held between zero and one. -/
def clampPart (t : Float32) : Float32 :=
  if t.isNaN || t < 0 then 0 else if 1 < t then 1 else t

/-- One channel of a mixture. -/
def mixChannel (a b : UInt8) (t : Float32) : UInt8 :=
  let a := Float32.ofNat a.toNat
  let b := Float32.ofNat b.toNat
  (a + (b - a) * t).round.toUInt8

/-- The colour that lies `t` of the way from `a` to `b`. -/
def mix (a b : Rgb) (t : Float32) : Rgb :=
  let t := clampPart t
  ⟨mixChannel a.r b.r t, mixChannel a.g b.g t, mixChannel a.b b.b t⟩

end MarkdownPager.Rgb
