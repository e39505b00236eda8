import MarkdownPager.Text.Quoted

/-!
# Errors

What can go wrong in the library, by cause, and the message of each cause.
-/

namespace MarkdownPager

/-- Why a text is no hexadecimal colour. -/
inductive ColorFault where
  /-- It holds a character other than a hexadecimal digit. -/
  | badDigit
  /-- It has only digits, but not three, six or eight of them. -/
  | badLength
  deriving DecidableEq, Repr

/-- The wording of a colour fault. -/
def ColorFault.message : ColorFault → String
  | .badDigit => "bad hex digit"
  | .badLength => "expected 3, 6 or 8 hex digits"

/-- The failures that the library reports. -/
inductive Error where
  /-- A text that should be a colour is none. -/
  | invalidColor (input : String) (fault : ColorFault)
  /-- A grammar gave up on a line, or a selector could not be read. -/
  | tokenizer (reason : String)
  /-- No bundled theme has this name. -/
  | unknownTheme (name : String)
  /-- A prepared update was committed after a newer one had been prepared. -/
  | superseded (pending current : Nat)
  deriving DecidableEq, Repr

/-- The message of a failure. -/
def Error.message : Error → String
  | .invalidColor input fault => "invalid color " ++ Text.quoted input ++ ": " ++ fault.message
  | .tokenizer reason => "tokenizer failed: " ++ reason
  | .unknownTheme name => "unknown theme " ++ Text.quoted name
  | .superseded pending current =>
    "update " ++ toString pending ++ " was superseded by update " ++ toString current

end MarkdownPager
