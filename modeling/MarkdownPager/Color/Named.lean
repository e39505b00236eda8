import MarkdownPager.Color.Hex

/-!
# Named colours

A handful of colours have names, compared without regard to ASCII case and to surrounding white
space.  No name is also a hexadecimal colour, so the order in which `parse` tries the two readings
decides only which error is reported.
-/

namespace MarkdownPager.Rgb

/-- The colour names, in lower case, with their colours. -/
def names : List (String × Rgb) := [
  ("black", ⟨0x00, 0x00, 0x00⟩),
  ("silver", ⟨0xc0, 0xc0, 0xc0⟩),
  ("gray", ⟨0x80, 0x80, 0x80⟩),
  ("grey", ⟨0x80, 0x80, 0x80⟩),
  ("white", ⟨0xff, 0xff, 0xff⟩),
  ("maroon", ⟨0x80, 0x00, 0x00⟩),
  ("red", ⟨0xff, 0x00, 0x00⟩),
  ("purple", ⟨0x80, 0x00, 0x80⟩),
  ("fuchsia", ⟨0xff, 0x00, 0xff⟩),
  ("magenta", ⟨0xff, 0x00, 0xff⟩),
  ("green", ⟨0x00, 0x80, 0x00⟩),
  ("lime", ⟨0x00, 0xff, 0x00⟩),
  ("olive", ⟨0x80, 0x80, 0x00⟩),
  ("yellow", ⟨0xff, 0xff, 0x00⟩),
  ("navy", ⟨0x00, 0x00, 0x80⟩),
  ("blue", ⟨0x00, 0x00, 0xff⟩),
  ("teal", ⟨0x00, 0x80, 0x80⟩),
  ("aqua", ⟨0x00, 0xff, 0xff⟩),
  ("cyan", ⟨0x00, 0xff, 0xff⟩),
  ("orange", ⟨0xff, 0xa5, 0x00⟩)]

/-- The colour of a name. -/
def named? (name : String) : Option Rgb :=
  names.lookup (Text.lowercase (Text.trim name))

/-- Reads a colour in either form.  A text that is neither gets the error of the hexadecimal
reading. -/
def parse (input : String) : Except Error Rgb :=
  match parseHex input with
  | .ok color => .ok color
  | .error fault =>
    match named? input with
    | some color => .ok color
    | none => .error fault

end MarkdownPager.Rgb
