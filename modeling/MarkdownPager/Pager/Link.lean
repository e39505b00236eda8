import MarkdownPager.Pager.Path
import MarkdownPager.Render.Line

/-!
# Links of a page

A page shows its blocks one below the other, with an empty line between neighbours.  A link is
known by the line it begins on, counted through the whole page.

What opening a link means depends on its target: a web address, a part of the page, or a file,
which is looked for next to the file that is shown.
-/

namespace MarkdownPager

/-- A link of a page, with the line that it begins on. -/
structure PageLink where
  label : String
  target : String
  line : Nat
  deriving DecidableEq, Repr, Inhabited

/-- The links of a block whose first line is line `offset` of the page. -/
def RenderedBlock.linksFrom (block : RenderedBlock) (offset : Nat) : List PageLink :=
  block.links.map fun (line, link) => ⟨link.label, link.url, offset + line⟩

/-- Adds the links of a block to those of the blocks above it.  The blocks above have `offset` lines
together, and the block at index 0 has no empty line in front of it. -/
def collectFrom (found : Array PageLink × Nat) (entry : RenderedBlock × Nat) :
    Array PageLink × Nat :=
  let (links, offset) := found
  let (block, index) := entry
  let offset := if 0 < index then offset + 1 else offset
  (links ++ block.linksFrom offset, offset + block.lines.length)

/-- The links of a page. -/
def collectLinks (blocks : List RenderedBlock) : List PageLink :=
  (blocks.zipIdx.foldl collectFrom (#[], 0)).1.toList

/-- What opening a link means. -/
inductive LinkAction where
  | url (address : String)
  | path (path : String)
  | anchor (name : String)
  deriving DecidableEq, Repr

namespace LinkAction

/-- Whether a target begins with a scheme of at least two letters. -/
def hasScheme (target : List Char) : Bool :=
  let scheme := target.takeWhile (· != ':')
  scheme.length < target.length && 1 < scheme.length &&
    scheme.all fun c => ('a' ≤ c && c ≤ 'z') || ('A' ≤ c && c ≤ 'Z')

/-- What opening a target means on the page of the file `page`, if it is one. -/
def ofTarget (target : String) (page : Option String) : LinkAction :=
  let cs := target.toList
  if cs.head? == some '#' then .anchor target
  else if hasScheme cs then .url target
  else
    let path := String.ofList (cs.takeWhile (· != '#'))
    match page.bind Path.parent? with
    | some directory => .path (Path.join directory path)
    | none => .path path

end LinkAction

end MarkdownPager
