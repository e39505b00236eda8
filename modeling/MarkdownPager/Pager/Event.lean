import MarkdownPager.CommandLine.Program
import MarkdownPager.Pager.Pager

/-!
# What happens to a pager

A pager is opened on the text that the program has read.  From then on it is drawn, keys are
pressed, and the file that it shows may change.

What fails changes nothing, except that the status line tells when a changed file cannot be shown or
watched any longer.
-/

namespace MarkdownPager

variable {σ : Type}

/-- The file that a text comes from, if it is one. -/
def TextSource.path? : TextSource → Option String
  | .file path => some path
  | .standardInput => none

/-- The pager for a text that has been read. -/
def Plan.openPager (parsers : Parsers σ) (plan : Plan) (themes : Themes) (text : String) :
    Except Failure (Pager σ) :=
  (plan.present text (Page.start parsers themes plan.arguments.config.appearance)).map
    fun (_, page) => .start themes page plan.source.path? plan.arguments.watch text

namespace Pager

/-- What can happen to a pager. -/
inductive Event where
  | key (key : Key) (outside : Outside)
  /-- The file has changed.  There may be a reason why it cannot be watched any longer. -/
  | changed (outside : Outside) (unwatched : Option String)
  | toggle
  /-- The pager is drawn on a screen of some size. -/
  | draw (width height : Nat)

/-- The pager with word of a change that could not be shown or watched. -/
def noteFailedReload (reason : String) (pager : Pager σ) : Pager σ :=
  { pager with status := "Reload failed: " ++ reason }

/-- The pager after an event. -/
def step (pager : Pager σ) : Event → Pager σ
  | .key key outside => (pager.handleKey outside key).2
  | .changed outside unwatched =>
    match pager.reload outside with
    | (.ok (), next) =>
      match unwatched with
      | some reason => if next.isWatching then next.noteFailedReload reason else next
      | none => next
    | (.error failure, next) => next.noteFailedReload failure.line
  | .toggle => pager.toggleAppearance.2
  | .draw _ height => pager.resize height

/-- The pager after events. -/
def run (pager : Pager σ) (events : List Event) : Pager σ := events.foldl step pager

end Pager

end MarkdownPager
