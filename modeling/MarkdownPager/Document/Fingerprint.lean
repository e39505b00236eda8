import MarkdownPager.Document.Block
import MarkdownPager.Text.Bytes

/-!
# Content fingerprints

A fingerprint is a text that tells whether two blocks show the same: it is made of the content
alone, without spans and identities.  Every free text is written with its length in bytes in front
(`3:abc`), and so is the encoding of every child, so no content can be mistaken for structure.

The start number of a list counts only when the list is ordered.
-/

namespace MarkdownPager

/-- What two blocks with the same content have in common. -/
structure Fingerprint where
  text : String
  deriving DecidableEq, Repr, Inhabited

namespace Fingerprint

/-- A number in decimal digits. -/
def number (n : Nat) : List Char :=
  Nat.toDigits 10 n

/-- A text with its length in bytes in front. -/
def framed (cs : List Char) : List Char :=
  number (Text.byteLength cs) ++ ':' :: cs

/-- A free text, framed. -/
def field (s : String) : List Char :=
  framed s.toList

mutual

/-- The encoding of one inline. -/
def ofInline : Inline → List Char
  | .text t => 't' :: field t
  | .code t => 'c' :: field t
  | .emphasis children => 'e' :: ofInlines children
  | .strong children => 's' :: ofInlines children
  | .strikethrough children => 'x' :: ofInlines children
  | .link url children => 'l' :: field url ++ ofInlines children
  | .image url alt => 'i' :: field url ++ field alt
  | .softBreak => ['b']
  | .hardBreak => ['B']
  | .html t => 'h' :: field t
  | .taskMarker done => [if done then 'K' else 'k']
  | .footnoteRef name => 'f' :: field name

/-- The encoding of a list of inlines: their number, then each of them framed, in brackets. -/
def ofInlines (inlines : List Inline) : List Char :=
  '[' :: number inlines.length ++ framedInlines inlines ++ [']']

/-- The framed encodings of inlines, one after the other. -/
def framedInlines : List Inline → List Char
  | [] => []
  | inline :: rest => framed (ofInline inline) ++ framedInlines rest

end

/-- The framed lines of a code block, one after the other. -/
def framedLines : List String → List Char
  | [] => []
  | line :: rest => field line ++ framedLines rest

mutual

/-- The encoding of a block. -/
def ofBlock : Block → List Char
  | .paragraph inlines => 'P' :: ofInlines inlines
  | .heading level inlines => 'H' :: number level ++ ofInlines inlines
  | .code info lines => 'C' :: field info ++ '#' :: number lines.length ++ framedLines lines
  | .list true start items =>
    ['L', 'o'] ++ number start.toNat ++ '#' :: number items.length ++ framedItems items
  | .list false _ items => ['L', 'u', '#'] ++ number items.length ++ framedItems items
  | .quote children => 'Q' :: ofNodes children
  | .rule => ['T']
  | .raw t => 'O' :: field t

/-- The encoding of the block of a node. -/
def ofNode : Node → List Char
  | { block, .. } => ofBlock block

/-- The encoding of child nodes: their number, then each of them framed. -/
def ofNodes (nodes : List Node) : List Char :=
  '#' :: number nodes.length ++ framedNodes nodes

/-- The framed encodings of nodes, one after the other. -/
def framedNodes : List Node → List Char
  | [] => []
  | node :: rest => framed (ofNode node) ++ framedNodes rest

/-- The framed encodings of list items, one after the other. -/
def framedItems : List (List Node) → List Char
  | [] => []
  | item :: rest => framed (ofNodes item) ++ framedItems rest

end

end Fingerprint

/-- The fingerprint of a node's content. -/
def Node.fingerprint (node : Node) : Fingerprint :=
  ⟨.ofList (Fingerprint.ofBlock node.block)⟩

end MarkdownPager
