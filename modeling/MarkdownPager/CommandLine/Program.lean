import MarkdownPager.CommandLine.Arguments
import MarkdownPager.Pager.Page

/-!
# The program

The program reads its arguments, then one text, and prints the text without styles.  `Plan.make`
decides what is to be read, and `Plan.finish` what is printed then.  Everything that can go wrong
leads to an outcome as well: status 1 if the text cannot be shown, and status 2 if the arguments are
no good.
-/

namespace MarkdownPager

variable {σ : Type}

/-- Where the text comes from. -/
inductive TextSource where
  | file (path : String)
  | standardInput
  deriving DecidableEq, Repr

/-- What the program leaves behind. -/
structure Outcome where
  status : UInt32
  output : String := ""
  errors : String := ""
  deriving DecidableEq, Repr

namespace Outcome

/-- The name and version of the program. -/
def versionText : String := "livemd 0.1.0\n"

/-- What the program can be asked for. -/
def helpText : String := "Render markdown incrementally as it is written

Usage: livemd [OPTIONS] [INPUT]

Arguments:
  [INPUT]  Markdown file path. Use '-' to read from stdin

Options:
  -i, --interactive                Force interactive pager mode
      --plain                      Force plain stdout rendering
      --watch                      Reload when the file changes (file input only)
      --appearance <APPEARANCE>    Color scheme for code and inline code [default: dark]
      --light-theme <LIGHT_THEME>  Syntax theme used in light appearance [default: InspiredGitHub]
      --dark-theme <DARK_THEME>    Syntax theme used in dark appearance [default: base16-ocean.dark]
      --stream <N>                 Feed the input through the renderer N characters at a time
  -h, --help                       Print help
  -V, --version                    Print version
"

/-- The outcome of a failure. -/
def ofFailure (failure : Failure) : Outcome := { status := 1, errors := failure.report }

/-- The outcome of reading arguments, if it ends there. -/
def ofInterruption : Interruption → Outcome
  | .fault fault =>
    { status := 2
      errors := "error: " ++ fault.message ++ "\n\nFor more information, try '--help'.\n" }
  | .help => { status := 0, output := helpText }
  | .version => { status := 0, output := versionText }

end Outcome

/-- What is to be done. -/
structure Plan where
  source : TextSource
  arguments : Arguments
  deriving DecidableEq, Repr

namespace Plan

/-- The plan for arguments that go together. -/
def ofArguments (arguments : Arguments) : Except Failure Plan :=
  if arguments.interactive && arguments.plain then .error .conflictingModes
  else
    match arguments.input with
    | none | some "-" =>
      if arguments.watch then .error .watchWithoutFile else .ok ⟨.standardInput, arguments⟩
    | some path => .ok ⟨.file path, arguments⟩

/-- The plan for the arguments of the program. -/
def make (arguments : List String) : Except Outcome Plan :=
  match Arguments.read arguments with
  | .error interruption => .error (.ofInterruption interruption)
  | .ok arguments => (ofArguments arguments).mapError .ofFailure

/-- What cannot be read from a source. -/
def readFailure (fault : ReadFault) : TextSource → Failure
  | .file path => .unreadableFile path fault
  | .standardInput => .unreadableInput fault

/-- What showing a streamed text took, in words. -/
def report (stats : StreamStats) : String :=
  toString stats.updates ++ " updates, " ++ toString stats.created ++ " blocks built, " ++
    toString stats.reused ++ " reused, " ++ toString stats.fastPath ++ " via safe boundary\n"

/-- Shows a text on a page, at once or in chunks, and tells what the chunks took. -/
def present (plan : Plan) (text : String) (page : Page σ) :
    Except Failure (String × Page σ) :=
  match plan.arguments.stream with
  | none => ((page.update text).map fun (_, page) => ("", page)).mapError .library
  | some chunk =>
    ((streamInto text chunk page).map fun (stats, page) => (report stats, page)).mapError .library

/-- The outcome for a text. -/
def print (parsers : Parsers σ) (plan : Plan) (text : String) : Except Failure Outcome := do
  let config := plan.arguments.config
  let themes ← Themes.load config
  let (errors, page) ← plan.present text (Page.start parsers themes config.appearance)
  if plan.arguments.interactive then
    return { status := 1, errors := errors ++ Failure.noTerminal.report }
  else
    return { status := 0, output := plainRender page.nodes ++ "\n", errors }

/-- The outcome of a plan, once its text has been read. -/
def finish (parsers : Parsers σ) (plan : Plan) (text : Except ReadFault String) : Outcome :=
  match text with
  | .error fault => .ofFailure (readFailure fault plan.source)
  | .ok text =>
    match plan.print parsers text with
    | .error failure => .ofFailure failure
    | .ok outcome => outcome

end Plan

end MarkdownPager
