import MarkdownPager.Document.Basic
import MarkdownPager.Document.Fingerprint
import MarkdownPager.Registry

/-!
# Reconciliation

When a document changes, what was built for a block of the old version may be shown for a block of
the new one.  Block `i` of the old version is always set against block `i` of the new one, so a
block inserted in the middle shifts all later pairs.

There are three ways to go through the pairs.

* **Rebuild**: everything is built afresh.
* **Positional**: a pair keeps what was built when its fingerprints agree.
* **Safe boundary**: when the new text strictly extends the old one, the pairs before the boundary
  are kept without a comparison, and all others are built afresh.  The boundary is the first old
  block that reaches the last line break of the old text.

What is built for a node is up to a `Materializer`, which may carry a state from one node to the
next.
-/

namespace MarkdownPager

universe u v

/-- Builds what is shown for a node, and passes a state on. -/
abbrev Materializer (σ : Type u) (π : Type v) := Node → σ → π × σ

/-- What happened to the pair at an index. -/
inductive Decision where
  | reuse (index : Nat)
  | replace (index : Nat)
  | insert (index : Nat)
  | remove (index : Nat)
  deriving DecidableEq, Repr

namespace Decision

/-- The index that the decision is about. -/
def index : Decision → Nat
  | reuse i | replace i | insert i | remove i => i

/-- Whether the decision keeps what was built. -/
def isReuse : Decision → Bool
  | reuse _ => true
  | _ => false

end Decision

/-- How the pairs were gone through. -/
inductive Strategy where
  | rebuild
  | positional
  | safeBoundary (index : Nat)
  deriving DecidableEq, Repr

/-- What a reconciliation gives: what is shown for each block of the new version, what happened to
each pair, a registry for the next round, and how many nodes were built. -/
structure Reconciliation (π : Type v) where
  nodes : List π
  decisions : List Decision
  registry : Registry π
  created : Nat
  strategy : Strategy

/-- The number of decisions that keep what was built. -/
def reusedCount (decisions : List Decision) : Nat :=
  decisions.countP (·.isReuse)

/-- The number of pairs that kept what was built. -/
def Reconciliation.reused {π : Type v} (result : Reconciliation π) : Nat :=
  reusedCount result.decisions

namespace Reconcile

variable {σ : Type u} {π : Type v}

/-- A reconciliation on its way: what has been gathered so far, and the state of the
materializer. -/
structure Pass (σ : Type u) (π : Type v) where
  state : σ
  nodes : List π := []
  decisions : List Decision := []
  registry : Registry π := .empty
  created : Nat := 0

namespace Pass

/-- Shows `presented` for a block that keeps it. -/
def keep (pass : Pass σ π) (index : Nat) (node : Node) (presented : π) : Pass σ π :=
  { pass with
    nodes := pass.nodes ++ [presented]
    decisions := pass.decisions ++ [.reuse index]
    registry := pass.registry.insert node.id presented }

/-- Builds what is shown for a block. -/
def build (materialize : Materializer σ π) (pass : Pass σ π) (node : Node) (decision : Decision) :
    Pass σ π :=
  let (presented, state) := materialize node pass.state
  { state
    nodes := pass.nodes ++ [presented]
    decisions := pass.decisions ++ [decision]
    registry := pass.registry.insert node.id presented
    created := pass.created + 1 }

/-- Keeps for `new` what the registry holds for `old`, or builds it if there is nothing. -/
def carry (materialize : Materializer σ π) (previous : Registry π) (pass : Pass σ π) (index : Nat)
    (old new : Node) : Pass σ π :=
  match previous.get? old.id with
  | some presented => pass.keep index new presented
  | none => pass.build materialize new (.replace index)

/-- Notes that a block of the old version has no partner. -/
def remove (pass : Pass σ π) (index : Nat) : Pass σ π :=
  { pass with decisions := pass.decisions ++ [.remove index] }

/-- Builds the blocks from `index` on, which have no partner in the old version. -/
def insertAll (materialize : Materializer σ π) : Nat → List Node → Pass σ π → Pass σ π
  | _, [], pass => pass
  | index, new :: news, pass =>
    insertAll materialize (index + 1) news (pass.build materialize new (.insert index))

/-- Goes through the pairs from `index` on; `keeps` says which of them may keep what was built. -/
def align (materialize : Materializer σ π) (previous : Registry π)
    (keeps : Nat → Node → Node → Bool) : Nat → List Node → List Node → Pass σ π → Pass σ π
  | index, [], news, pass => pass.insertAll materialize index news
  | index, _ :: olds, [], pass =>
    align materialize previous keeps (index + 1) olds [] (pass.remove index)
  | index, old :: olds, new :: news, pass =>
    align materialize previous keeps (index + 1) olds news <|
      if keeps index old new then pass.carry materialize previous index old new
      else pass.build materialize new (.replace index)

/-- The outcome of a pass that is through. -/
def finish (pass : Pass σ π) (strategy : Strategy) : Reconciliation π × σ :=
  ({ nodes := pass.nodes
     decisions := pass.decisions
     registry := pass.registry
     created := pass.created
     strategy },
   pass.state)

end Pass

/-- Whether two blocks show the same. -/
def sameContent (old new : Node) : Bool :=
  old.block.kind == new.block.kind && old.fingerprint == new.fingerprint

/-- Builds every block of the new version. -/
def rebuild (materialize : Materializer σ π) (new : Document) (state : σ) :
    Reconciliation π × σ :=
  ((Pass.mk state [] [] .empty 0).insertAll materialize 0 new.blocks).finish .rebuild

/-- Compares the pairs by content. -/
def positional (materialize : Materializer σ π) (old new : Document) (registry : Registry π)
    (state : σ) : Reconciliation π × σ :=
  (Pass.align materialize registry (fun _ => sameContent) 0 old.blocks new.blocks
    { state }).finish .positional

/-- Keeps the pairs before the boundary. -/
def incremental (materialize : Materializer σ π) (old new : Document) (boundary : Nat)
    (registry : Registry π) (state : σ) : Reconciliation π × σ :=
  (Pass.align materialize registry (fun index _ _ => index < boundary) 0 old.blocks new.blocks
    { state }).finish (.safeBoundary boundary)

/-- Whether the new text is the old one with something more at the end. -/
def strictlyExtends (old new : String) : Bool :=
  old.toList.length < new.toList.length && old.toList.isPrefixOf new.toList

/-- The first old block that text appended to the old source may change: the first one that
reaches the last line break.  None if there is no line break, if a span is inverted, or if all
blocks end before the line break. -/
def boundaryIndex? (old : Document) : Option Nat := do
  let boundary ← Text.lastOffsetOf? '\n' old.source.toList
  if old.blocks.any (·.span.isInverted) then none
  else old.blocks.findIdx? fun node => boundary ≤ node.span.stop

end Reconcile

/-- The boundary index of `old`, provided that `newSource` strictly extends its text. -/
def safeBoundary (old : Document) (newSource : String) : Option Nat :=
  if Reconcile.strictlyExtends old.source newSource then Reconcile.boundaryIndex? old else none

open Reconcile in
/-- Reconciles `new` against `old`, reading what may be kept from `registry`.  The registry of the
result holds exactly the blocks of `new`. -/
def reconcile {σ : Type u} {π : Type v} (materialize : Materializer σ π) (old : Option Document)
    (new : Document) (registry : Registry π) (state : σ) : Reconciliation π × σ :=
  match old with
  | none => rebuild materialize new state
  | some old =>
    if old.isEmpty then rebuild materialize new state
    else if strictlyExtends old.source new.source then
      match boundaryIndex? old with
      | some index =>
        if index ≤ new.blocks.length then incremental materialize old new index registry state
        else rebuild materialize new state
      | none => rebuild materialize new state
    else positional materialize old new registry state

end MarkdownPager
