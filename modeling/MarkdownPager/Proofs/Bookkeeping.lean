import MarkdownPager.Proofs.Decisions
import MarkdownPager.Proofs.Naturality

/-!
# The books of a reconciliation

A walk over the pairs of two versions keeps four books side by side: the things shown, the
decisions, the registry for the next walk, and the number of things built.  Each small step writes
into several of them, and what the registry of the old version lacks changes which step is taken.

* `Reconciliation.Balanced` — what the books say together, for a number of old blocks that take part
  and a list of new blocks.
* `countP_decisions`, `filter_isRemove_decisions` — the decisions are as many as the longer version
  has blocks, and those to remove come last; so building and keeping make up the new version.
* `counting` — a materializer that counts how often it is asked; it is asked once for each thing
  that is built.
* `reconcile_balanced` — the books balance for every pair of versions and every registry.
-/

namespace MarkdownPager

universe u v

variable {σ : Type u} {π : Type v}

/-- Whether the decision gives up a block of the old version. -/
def Decision.isRemove : Decision → Bool
  | .remove _ => true
  | _ => false

/-- **The books balance.**  `before` is the number of old blocks that were set against `news`. -/
structure Reconciliation.Balanced (result : Reconciliation π) (before : Nat) (news : List Node) :
    Prop where
  /-- One thing is shown for each new block. -/
  nodes : result.nodes.length = news.length
  /-- There is one decision for each index of the longer version, in order. -/
  indices : result.decisions.map (·.index) = List.range (max before news.length)
  /-- What is built is replaced or inserted. -/
  created : result.created = result.decisions.countP (·.builds)
  /-- What is not built is kept. -/
  total : result.created + result.reused = news.length
  /-- The old blocks behind the last new one are given up, and no others. -/
  removed : result.decisions.filter (·.isRemove) =
    (List.range' news.length (before - news.length)).map .remove
  size : result.registry.size = news.length
  /-- The registry holds for each new block what is shown for it. -/
  held : ∀ {index : Nat} {node : Node}, news[index]? = some node → ∃ presented,
    result.nodes[index]? = some presented ∧ result.registry.get? node.id = some presented

/-- Counts how often it is asked to build something. -/
def counting (materialize : Materializer σ π) : Materializer (σ × Nat) π :=
  fun node state =>
    ((materialize node state.1).1, ((materialize node state.1).2, state.2 + 1))

namespace Reconcile

/-! ## The book of decisions -/

/-- Each decision builds, keeps or gives up something. -/
theorem length_eq_countP (decisions : List Decision) :
    decisions.length = decisions.countP (·.builds) + reusedCount decisions +
      decisions.countP (·.isRemove) := by
  induction decisions with
  | nil => rfl
  | cons decision decisions ih =>
      have one : (if decision.builds then 1 else 0) + (if decision.isReuse then 1 else 0) +
          (if decision.isRemove then 1 else 0) = 1 := by
        cases decision <;> rfl
      unfold reusedCount at ih ⊢
      rw [List.length_cons, List.countP_cons, List.countP_cons, List.countP_cons]
      omega

section Decisions

variable (kept : Nat → Node → Node → Bool) (olds news : List Node)

theorem index_decisionAt (index : Nat) (old new : Option Node) :
    (decisionAt kept index old new).index = index := by
  unfold decisionAt
  split
  · split <;> rfl
  · rfl
  · rfl

theorem map_index_decisions :
    (decisions kept olds news).map (·.index) = List.range (max olds.length news.length) := by
  unfold decisions
  rw [List.map_map]
  have same : ∀ index ∈ List.range (max olds.length news.length),
      (decisionAt kept index olds[index]? news[index]?).index = id index :=
    fun index _ => index_decisionAt kept index _ _
  exact (List.map_congr_left same).trans (List.map_id _)

/-- A block of the new version is never given up. -/
theorem isRemove_decisionAt_some (index : Nat) (old : Option Node) (new : Node) :
    (decisionAt kept index old (some new)).isRemove = false := by
  unfold decisionAt
  split
  · split <;> rfl
  · rfl
  · contradiction

/-- **What is given up**: the old blocks behind the last new one. -/
theorem filter_isRemove_decisions :
    (decisions kept olds news).filter (·.isRemove) =
      (List.range' news.length (olds.length - news.length)).map .remove := by
  -- The indices of the longer version, cut behind the last new block.
  have cut : List.range (max olds.length news.length) =
      List.range news.length ++ List.range' news.length (olds.length - news.length) := by
    rw [range_eq_append (Nat.le_max_right olds.length news.length)]
    congr 2
    omega
  have before : ((List.range news.length).map fun index =>
      decisionAt kept index olds[index]? news[index]?).filter (·.isRemove) = [] := by
    rw [List.filter_eq_nil_iff, List.forall_mem_map]
    intro index member
    rw [List.getElem?_eq_getElem (List.mem_range.mp member), isRemove_decisionAt_some]
    exact Bool.false_ne_true
  have behind : ∀ index ∈ List.range' news.length (olds.length - news.length),
      decisionAt kept index olds[index]? news[index]? = .remove index := by
    intro index member
    obtain ⟨above, below⟩ := List.mem_range'_1.mp member
    rw [List.getElem?_eq_none above, List.getElem?_eq_getElem (by omega)]
    rfl
  unfold decisions
  rw [cut, List.map_append, List.filter_append, before, List.nil_append,
    List.map_congr_left behind, List.filter_eq_self, List.forall_mem_map]
  exact fun _ _ => rfl

/-- **Building and keeping make up the new version.** -/
theorem countP_decisions :
    (decisions kept olds news).countP (·.builds) + reusedCount (decisions kept olds news) =
      news.length := by
  have removed : (decisions kept olds news).countP (·.isRemove) = olds.length - news.length := by
    rw [List.countP_eq_length_filter, filter_isRemove_decisions, List.length_map,
      List.length_range']
  have all : (decisions kept olds news).length = max olds.length news.length := by
    rw [← List.length_map, map_index_decisions, List.length_range]
  have split := length_eq_countP (decisions kept olds news)
  omega

end Decisions

/-! ## The number of things built -/

/-- The materializer was asked `calls` times before the pass and once for each thing that the pass
has built. -/
def Pass.Called (calls : Nat) (pass : Pass (σ × Nat) π) : Prop :=
  pass.state.2 = calls + pass.created

theorem Pass.called_invariant (materialize : Materializer σ π) (calls : Nat) :
    Pass.Invariant (counting materialize) (Pass.Called calls) where
  build _ _ _ called := congrArg (· + 1) called
  keep _ _ _ called := called
  remove _ called := called

section Reconciliation

variable (materialize : Materializer σ π) (current : Option Document) (new : Document)
  (registry : Registry π) (state : σ)

/-- **Counting changes nothing**, and it counts what is built. -/
theorem reconcile_counting (calls : Nat) :
    reconcile (counting materialize) current new registry (state, calls) =
      ((reconcile materialize current new registry state).1,
        ((reconcile materialize current new registry state).2,
          calls + (reconcile materialize current new registry state).1.created)) := by
  have isImage : IsImage id Prod.fst materialize (counting materialize) := fun _ _ => rfl
  have forgotten := reconcile_map isImage current new registry (state, calls)
  have counted : (reconcile (counting materialize) current new registry (state, calls)).2.2 =
      calls + (reconcile (counting materialize) current new registry (state, calls)).1.created := by
    rw [reconcile_eq_align]
    have start : Pass.Called calls ({ state := (state, calls) } : Pass (σ × Nat) π) := rfl
    exact (Pass.called_invariant materialize calls).align _ 0 _ start
  rw [Registry.map_id] at forgotten
  rw [forgotten, Reconciliation.map_id, ← counted]

/-! ## All books together -/

/-- A rebuild sets no old block against the new ones, and whatever else is done sets all of them. -/
theorem length_partners :
    strategyFor current new = .rebuild ∧
        (partners (strategyFor current new) current).length = 0 ∨
      strategyFor current new ≠ .rebuild ∧ ∃ old, current = some old ∧
        (partners (strategyFor current new) current).length = old.blocks.length := by
  by_cases rebuilt : strategyFor current new = .rebuild
  · left
    rw [rebuilt]
    exact ⟨rfl, rfl⟩
  · right
    refine ⟨rebuilt, ?_⟩
    cases current with
    | none => exact absurd rfl rebuilt
    | some old =>
        refine ⟨old, rfl, ?_⟩
        cases strategy : strategyFor (some old) new with
        | rebuild => exact absurd strategy rebuilt
        | positional => rfl
        | safeBoundary boundary => rfl

theorem balanced_reconcile (distinct : (new.blocks.map (·.id)).Nodup) :
    (reconcile materialize current new registry state).1.Balanced
      (partners (strategyFor current new) current).length new.blocks := by
  have decided := decisions_reconcile materialize current new registry state
  have created := created_reconcile materialize current new registry state
  have covering : Covering (fun _ _ _ => True) new.blocks
      (reconcile materialize current new registry state).1.nodes
      (reconcile materialize current new registry state).1.registry :=
    And.left (reconcile_covering (fun _ => True) (fun _ _ _ => True) distinct
      (fun _ _ _ _ _ => trivial) (fun _ _ _ _ _ _ => ⟨trivial, trivial⟩) trivial)
  refine ⟨covering.length_eq, ?_, created, ?_, ?_, covering.size_eq, ?_⟩
  · rw [decided, map_index_decisions]
  · rw [created, Reconciliation.reused, decided, countP_decisions]
  · rw [decided, filter_isRemove_decisions]
  · intro index node present
    have inside : index < (reconcile materialize current new registry state).1.nodes.length := by
      rw [covering.length_eq]
      exact (List.getElem?_eq_some_iff.mp present).1
    have shown := List.getElem?_eq_getElem inside
    exact ⟨_, shown, (covering.get?_id present).trans shown⟩

/-- **The books of every reconciliation balance.**  Rebuilding sets no old block against the new
ones, the other strategies set all of them.  However often the materializer was asked before, it is
asked once more for each thing that is built. -/
theorem reconcile_balanced (distinct : (new.blocks.map (·.id)).Nodup) :
    let result := (reconcile materialize current new registry state).1
    (∃ before, result.Balanced before new.blocks ∧
      (result.strategy = .rebuild ∧ before = 0 ∨
        result.strategy ≠ .rebuild ∧ ∃ old, current = some old ∧ before = old.blocks.length)) ∧
    ∀ calls, ∃ after,
      reconcile (counting materialize) current new registry (state, calls) =
        (result, (after, calls + result.created)) := by
  intro result
  have balanced := balanced_reconcile materialize current new registry state distinct
  have strategy : result.strategy = strategyFor current new := strategy_reconcile ..
  refine ⟨⟨_, balanced, ?_⟩, fun calls => ⟨_, reconcile_counting ..⟩⟩
  rw [strategy]
  exact length_partners current new

/-- A paragraph, a list of one item, and what will be its second one. -/
def beforeItem : Document where
  source := "x\n\n1. a\n\n2"
  blocks :=
    [⟨⟨1⟩, ⟨0, 1⟩, .paragraph [.text "x"]⟩,
      ⟨⟨2⟩, ⟨3, 7⟩, .list true 1 [[⟨⟨3⟩, ⟨6, 7⟩, .paragraph [.text "a"]⟩]]⟩,
      ⟨⟨4⟩, ⟨9, 10⟩, .paragraph [.text "2"]⟩]

/-- The paragraph, and a list of two items. -/
def afterItem : Document where
  source := "x\n\n1. a\n\n2. b"
  blocks :=
    [⟨⟨5⟩, ⟨0, 1⟩, .paragraph [.text "x"]⟩,
      ⟨⟨6⟩, ⟨3, 13⟩, .list true 1 [[⟨⟨7⟩, ⟨6, 7⟩, .paragraph [.text "a"]⟩],
        [⟨⟨8⟩, ⟨12, 13⟩, .paragraph [.text "b"]⟩]]⟩]

/-- Shows the identity that a node had when it was built. -/
def showId : Materializer Unit Nat := fun node state => (node.id.val, state)

/-- A registry that lacks the first of the old blocks: both blocks before the boundary may be kept,
but the first is built anew.  The last one is given up. -/
theorem reconcile_balanced_missing_entry :
    let registry : Registry Nat := Registry.empty.insert ⟨2⟩ 2
    let result := (reconcile showId (some beforeItem) afterItem registry ()).1
    (afterItem.blocks.map (·.id)).Nodup ∧
      result.strategy = .safeBoundary 2 ∧ result.nodes = [5, 2] ∧
      result.decisions = [.replace 0, .reuse 1, .remove 2] ∧
      (∃ before, result.Balanced before afterItem.blocks ∧
        (result.strategy = .rebuild ∧ before = 0 ∨ result.strategy ≠ .rebuild ∧
          ∃ old, some beforeItem = some old ∧ before = old.blocks.length)) ∧
      ∀ calls, ∃ after,
        reconcile (counting showId) (some beforeItem) afterItem registry ((), calls) =
          (result, (after, calls + result.created)) := by
  have distinct : (afterItem.blocks.map (·.id)).Nodup := by decide
  refine ⟨distinct, by decide +kernel, by decide +kernel, by decide +kernel, ?_⟩
  exact reconcile_balanced showId (some beforeItem) afterItem (Registry.empty.insert ⟨2⟩ 2) ()
    distinct

end Reconciliation

end Reconcile

end MarkdownPager
