import MarkdownPager.Pager.Link
import MarkdownPager.Pager.Page
import MarkdownPager.Pager.Screen

/-!
# The pager

The pager shows a page and moves around in it.  One of its links is selected, if it has any; the
line on which that link begins stands out, and selecting another link scrolls there.

Scrolling counts the lines of the page, and stops where the last of them is at the bottom.
What the pager needs from outside, the text of the file and the opening of links, is given to it
with the key that asks for it.  Where that can fail, the pager comes back beside what has become of
it, in the state in which it was left.
-/

namespace MarkdownPager

/-- A key. -/
inductive Key where
  | char (c : Char) (control : Bool)
  | up
  | down
  | tab
  | backTab
  | enter
  /-- Any key that means nothing. -/
  | other
  deriving DecidableEq, Repr

/-- What is around the pager. -/
structure Outside where
  read : String → Except ReadFault String
  openTarget : String → Except OpenFault Unit

/-- A page on the screen. -/
structure Pager (σ : Type) where
  themes : Themes
  page : Page σ
  /-- The file that is shown, if it is one. -/
  path : Option String
  /-- Whether the file is watched. -/
  watch : Bool
  source : String
  scroll : Nat
  viewportHeight : Nat
  links : List PageLink
  selected : Option Nat
  status : String

namespace Pager

variable {σ : Type}

/-- A pager for a page that shows `source`. -/
def start (themes : Themes) (page : Page σ) (path : Option String) (watch : Bool)
    (source : String) : Pager σ :=
  let links := collectLinks page.nodes
  { themes, page, path, watch, source
    scroll := 0
    viewportHeight := 1
    links
    selected := if links.isEmpty then none else some 0
    status := "" }

/-- The selected link. -/
def selectedLink? (pager : Pager σ) : Option PageLink :=
  pager.selected.bind fun index => pager.links[index]?

/-- The line on which the selected link begins. -/
def selectedLine? (pager : Pager σ) : Option Nat :=
  pager.selectedLink?.map (·.line)

/-! ## Lines -/

/-- A line that stands out. -/
def highlighted (line : RenderedLine) : List Segment :=
  line.segments.map fun segment =>
    { segment with
      style := { segment.style with foreground := some .white, background := some .blue } }

/-- Adds a line to the lines above it.  It stands out if it is the selected one, known by the number
of lines above, and if there is anything on it. -/
def addLine (selected : Option Nat) (above : Array (List Segment)) (line : RenderedLine) :
    Array (List Segment) :=
  if selected ≠ some above.size ∨ line.segments.isEmpty then above.push line.segments
  else above.push (highlighted line)

/-- Adds the lines of a block, with an empty line in front of them unless it is the block at
index 0. -/
def addBlock (selected : Option Nat) (above : Array (List Segment))
    (entry : RenderedBlock × Nat) : Array (List Segment) :=
  let (block, index) := entry
  let above := if 0 < index then above.push [] else above
  block.lines.foldl (addLine selected) above

/-- The lines of the page. -/
def lines (pager : Pager σ) : List (List Segment) :=
  (pager.page.nodes.zipIdx.foldl (addBlock pager.selectedLine?) #[]).toList

/-- The number of lines of the page. -/
def lineCount (pager : Pager σ) : Nat :=
  let blocks := pager.page.nodes
  let separators := blocks.length - 1
  blocks.foldl (fun count block => count + block.lines.length) 0 + separators

/-! ## Scrolling -/

/-- The largest number of lines that can be scrolled away. -/
def maxScroll (pager : Pager σ) : Nat :=
  saturate (pager.lineCount - max pager.viewportHeight 1)

/-- Scrolls to a line, or as far as possible. -/
def scrollTo (line : Nat) (pager : Pager σ) : Pager σ :=
  { pager with scroll := min line pager.maxScroll }

/-- Scrolls back if there is too little below. -/
def clampScroll (pager : Pager σ) : Pager σ := pager.scrollTo pager.scroll

/-- Half of the lines on the screen, but at least one. -/
def halfPage (pager : Pager σ) : Nat := max (pager.viewportHeight / 2) 1

/-! ## Links -/

/-- Selects the next link or the one before, around the ends, and scrolls there. -/
def cycleLink (backwards : Bool) (pager : Pager σ) : Pager σ :=
  if pager.links.isEmpty then { pager with selected := none }
  else
    let count := pager.links.length
    let index := pager.selected.getD 0
    let next :=
      if backwards then if index = 0 then count - 1 else index - 1 else (index + 1) % count
    let pager := { pager with selected := some next }
    match pager.selectedLine? with
    | some line => pager.scrollTo (saturate line)
    | none => pager

/-- Opens what is outside the page. -/
def openOutside (outside : Outside) (target : String) (pager : Pager σ) :
    Except Failure Unit × Pager σ :=
  match outside.openTarget target with
  | .ok () => (.ok (), { pager with status := "Opened " ++ target })
  | .error fault => (.error (.unopened target fault), pager)

/-- Opens the selected link. -/
def openSelected (outside : Outside) (pager : Pager σ) : Except Failure Unit × Pager σ :=
  match pager.selectedLink? with
  | none => (.ok (), { pager with status := "No link selected" })
  | some link =>
    match LinkAction.ofTarget link.target pager.path with
    | .anchor name =>
      (.ok (), { pager with status := "Anchor links are not supported: " ++ name })
    | .url address => pager.openOutside outside address
    | .path path => pager.openOutside outside path

/-! ## The text -/

/-- Shows another text.  A text that cannot be shown has been prepared all the same, and leaves
everything else as it is. -/
def applySource (source : String) (pager : Pager σ) : Except Failure Unit × Pager σ :=
  match pager.page.update source with
  | .error error =>
    (.error (.library error), { pager with page := (pager.page.prepare source).2 })
  | .ok (applied, page) =>
    let links := collectLinks page.nodes
    let selected :=
      if links.isEmpty then none
      else some (min (pager.selected.getD 0) (links.length - 1))
    let status := "rev " ++ toString applied.revision ++ " | built " ++
      toString applied.created ++ " reused " ++ toString applied.reused
    (.ok (), ({ pager with page, source, links, selected, status } : Pager σ).clampScroll)

/-- Reads the file again and shows its text. -/
def reload (outside : Outside) (pager : Pager σ) : Except Failure Unit × Pager σ :=
  match pager.path with
  | none => (.ok (), pager)
  | some path =>
    match outside.read path with
    | .ok source => pager.applySource source
    | .error fault => (.error (.unreadableReload path fault), pager)

/-- Shows the text in the other appearance.  The text is taken out of the pager before it is shown
anew: if that failed, the pager would be without it. -/
def toggleAppearance (pager : Pager σ) : Except Failure Unit × Pager σ :=
  let appearance := pager.page.appearance.toggled
  let renderer := pager.page.state.setTheme (pager.themes.get appearance) appearance
  let page := { pager.page with state := renderer }.invalidate
  let source := pager.source
  { pager with page, source := "" }.applySource source

/-- Whether a file is there to be watched, and is to be. -/
def isWatching (pager : Pager σ) : Bool := pager.watch && pager.path.isSome

/-! ## Keys -/

/-- What a key does, and whether it ends the pager. -/
def handleKey (outside : Outside) (key : Key) (pager : Pager σ) : Except Failure Bool × Pager σ :=
  let goOn (pager : Pager σ) : Except Failure Bool × Pager σ := (.ok false, pager)
  let goOnAfter (attempt : Except Failure Unit × Pager σ) : Except Failure Bool × Pager σ :=
    (attempt.1.map fun () => false, attempt.2)
  match key with
  | .char 'q' _ => (.ok true, pager)
  | .char 'j' _ | .down => goOn (pager.scrollTo (pager.scroll + 1))
  | .char 'k' _ | .up => goOn (pager.scrollTo (pager.scroll - 1))
  | .char 'g' _ => goOn (pager.scrollTo 0)
  | .char 'G' _ => goOn (pager.scrollTo pager.maxScroll)
  | .char 'd' true => goOn (pager.scrollTo (pager.scroll + pager.halfPage))
  | .char 'u' true => goOn (pager.scrollTo (pager.scroll - pager.halfPage))
  | .tab => goOn (pager.cycleLink false)
  | .backTab => goOn (pager.cycleLink true)
  | .enter => goOnAfter (pager.openSelected outside)
  | .char 'a' _ => goOnAfter pager.toggleAppearance
  | .char 'r' _ => goOnAfter (pager.reload outside)
  | _ => goOn pager

/-! ## Drawing -/

/-- The text of the status line. -/
def statusText (pager : Pager σ) : String :=
  let appearance := match pager.page.appearance with
    | .light => "light"
    | .dark => "dark"
  let watch := if pager.watch then " watch:on" else ""
  let link := match pager.selected, pager.selectedLink? with
    | some index, some link =>
      " | link[" ++ toString (index + 1) ++ "/" ++ toString pager.links.length ++ "]: " ++
        link.label
    | _, _ => ""
  let status := if pager.status.isEmpty then "" else " | " ++ pager.status
  pager.path.getD "<stdin>" ++ " | " ++ appearance ++ watch ++ link ++ status

/-- The first row of a text. -/
def firstRow (text : String) : List Char :=
  (Text.linesOf text.toList).headD []

/-- The texts of a line. -/
def textsOf (line : List Segment) : List String := line.map (·.text)

/-- The pager on a screen of some height.  It notes how much of the page it can show, and scrolls
back if there is more room than before. -/
def resize (height : Nat) (pager : Pager σ) : Pager σ :=
  let bodyHeight := if height ≤ 1 then height else height - 1
  { pager with viewportHeight := max (bodyHeight - 1) 1 }.clampScroll

/-- Draws the page on a screen: the pager as it is afterwards, and the rows of the screen. -/
def draw (layout : TextLayout) (width height : Nat) (pager : Pager σ) : Pager σ × List String :=
  let pager := pager.resize height
  (pager, Screen.rows layout width height pager.scroll (pager.lines.map textsOf)
    (' ' :: firstRow pager.statusText))

end Pager

end MarkdownPager
