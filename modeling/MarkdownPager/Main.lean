import MarkdownPager.CommandLine.Program
import MarkdownPager.Pager.BuiltIn

/-!
# The command

Reads the text that the plan asks for with the parsers that are built in, and prints what comes of
it.
-/

namespace MarkdownPager

/-- Why the system could not read. -/
def ReadFault.ofError : IO.Error → ReadFault
  | .noFileOrDirectory .. => .missing
  | .inappropriateType _ code reason | .permissionDenied _ code reason =>
    .other (reason.capitalize ++ " (os error " ++ toString code ++ ")")
  | error => .other (toString error)

/-- The bytes of a text source. -/
def TextSource.bytes : TextSource → IO ByteArray
  | .file path => IO.FS.readBinFile path
  | .standardInput => do (← IO.getStdin).readBinToEnd

/-- Reads a text source. -/
def TextSource.read (source : TextSource) : IO (Except ReadFault String) := do
  try
    match String.fromUTF8? (← source.bytes) with
    | some text => return .ok text
    | none => return .error .notText
  catch error => return .error (.ofError error)

/-- Runs the program. -/
def run (arguments : List String) : IO UInt32 := do
  let outcome ← match Plan.make arguments with
    | .error outcome => pure outcome
    | .ok plan => do pure (plan.finish .builtIn (← plan.source.read))
  IO.eprint outcome.errors
  IO.print outcome.output
  return outcome.status

end MarkdownPager

/-- The program. -/
def main (arguments : List String) : IO UInt32 := MarkdownPager.run arguments
