import MarkdownPager.Error
import MarkdownPager.Highlight.Bundled

/-!
# Failures of the program

What can go wrong in the program around the library: files that cannot be read or opened, themes
that do not exist, and arguments that do not go together.  A failure may have a cause, which is
reported behind it.
-/

namespace MarkdownPager

/-- Why a text cannot be read. -/
inductive ReadFault where
  | missing
  /-- The bytes are no UTF-8. -/
  | notText
  | other (reason : String)
  deriving DecidableEq, Repr

/-- The wording of the system for something that does not exist. -/
def missingMessage : String := "No such file or directory (os error 2)"

/-- The wording of a read fault. -/
def ReadFault.message : ReadFault → String
  | .missing => missingMessage
  | .notText => "stream did not contain valid UTF-8"
  | .other reason => reason

/-- Why a link cannot be opened. -/
inductive OpenFault where
  /-- The program that opens links does not exist. -/
  | missing
  /-- It ended with this status. -/
  | status (code : Nat)
  deriving DecidableEq, Repr

/-- The wording of an opening fault. -/
def OpenFault.message : OpenFault → String
  | .missing => missingMessage
  | .status code => "system open command failed with status exit status: " ++ toString code

/-- The failures of the program. -/
inductive Failure where
  | library (error : Error)
  | theme (error : Error)
  | unreadableFile (path : String) (fault : ReadFault)
  | unreadableInput (fault : ReadFault)
  | unreadableReload (path : String) (fault : ReadFault)
  | unopened (target : String) (fault : OpenFault)
  /-- Both ways of showing the page are asked for. -/
  | conflictingModes
  /-- Something other than a file is to be watched. -/
  | watchWithoutFile
  /-- There is no terminal to show the page on. -/
  | noTerminal
  deriving DecidableEq, Repr

namespace Failure

/-- The wording of a failure, without its cause. -/
def message : Failure → String
  | .library error => error.message
  | .theme _ => "Available themes: " ++ Text.join ", " Theme.bundledNames
  | .unreadableFile path _ => "Failed to read " ++ path
  | .unreadableInput _ => "Failed to read markdown from stdin"
  | .unreadableReload path _ => "Failed to reload " ++ path
  | .unopened target _ => "Failed to open " ++ target
  | .conflictingModes => "--interactive and --plain cannot be used together"
  | .watchWithoutFile => "--watch requires file input"
  | .noTerminal => "No such device or address (os error 6)"

/-- The wording of the cause of a failure. -/
def cause? : Failure → Option String
  | .theme error => some error.message
  | .unreadableFile _ fault | .unreadableInput fault | .unreadableReload _ fault =>
    some fault.message
  | .unopened _ fault => some fault.message
  | _ => none

/-- A failure with its cause in one line. -/
def line (failure : Failure) : String :=
  match failure.cause? with
  | some cause => failure.message ++ ": " ++ cause
  | none => failure.message

/-- A failure as the program reports it before it ends. -/
def report (failure : Failure) : String :=
  let cause := match failure.cause? with
    | some cause => "\n\nCaused by:\n    " ++ cause
    | none => ""
  "Error: " ++ failure.message ++ cause ++ "\n"

end Failure

end MarkdownPager
