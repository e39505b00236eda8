import MarkdownPager.Document.Parse
import MarkdownPager.Error
import MarkdownPager.Reconcile

/-!
# Live documents

A live document shows the latest version of a text.  A new version is first prepared, which parses
and reconciles it without touching what is shown, and then committed as a whole.  Preparing a
version makes every version prepared before it worthless: committing one of those fails and changes
nothing.

`invalidate` forgets what the shown version was built from.  It stays visible, but nothing of it is
kept by a version that is prepared later.
-/

namespace MarkdownPager

universe u v

variable {σ : Type u} {π : Type v}

/-- A text that changes over time, and what is shown for it. -/
structure LiveDocument (σ : Type u) (π : Type v) where
  /-- What reads the text. -/
  reader : Markdown.Reader
  materialize : Materializer σ π
  /-- The state of the materializer. -/
  state : σ
  /-- The version that can be reconciled against. -/
  current : Option Document := none
  registry : Registry π := .empty
  nodes : List π := []
  /-- The number of versions prepared so far. -/
  revision : Nat := 0
  /-- The first identity that no node has. -/
  nextId : Nat := 1

/-- A version that is reconciled but not shown. -/
structure PendingUpdate (π : Type v) where
  revision : Nat
  document : Document
  result : Reconciliation π

/-- What a commit did. -/
structure Applied where
  revision : Nat
  decisions : List Decision
  created : Nat
  strategy : Strategy
  deriving DecidableEq, Repr

/-- The number of blocks that kept what was built for them. -/
def Applied.reused (applied : Applied) : Nat := reusedCount applied.decisions

namespace LiveDocument

/-- A live document without a version. -/
def start (reader : Markdown.Reader) (materialize : Materializer σ π) (state : σ) :
    LiveDocument σ π :=
  { reader, materialize, state }

/-- Parses and reconciles a text, leaving what is shown as it is. -/
def prepare (live : LiveDocument σ π) (text : String) : PendingUpdate π × LiveDocument σ π :=
  let (document, nextId) := Document.parse live.reader live.nextId text
  let (result, state) :=
    reconcile live.materialize live.current document live.registry live.state
  let revision := live.revision + 1
  (⟨revision, document, result⟩, { live with state, revision, nextId })

/-- Shows a prepared version, unless another one has been prepared since. -/
def commit (live : LiveDocument σ π) (pending : PendingUpdate π) :
    Except Error (Applied × LiveDocument σ π) :=
  if pending.revision = live.revision then
    let result := pending.result
    let registry :=
      (result.registry.evictAllExcept (pending.document.blocks.map (·.id))).2
    .ok (⟨pending.revision, result.decisions, result.created, result.strategy⟩,
      { live with current := some pending.document, registry, nodes := result.nodes })
  else .error (.superseded pending.revision live.revision)

/-- Prepares a text and shows it at once. -/
def update (live : LiveDocument σ π) (text : String) :
    Except Error (Applied × LiveDocument σ π) :=
  let (pending, live) := live.prepare text
  live.commit pending

/-- Forgets the shown version, so that the next one is built from scratch. -/
def invalidate (live : LiveDocument σ π) : LiveDocument σ π :=
  { live with current := none, registry := .empty }

end LiveDocument

end MarkdownPager
