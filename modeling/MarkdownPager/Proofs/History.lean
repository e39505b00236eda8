import Mathlib.Data.List.Chain
import MarkdownPager.Proofs.Reconcile

/-!
# Histories of a document

The versions of a document are reconciled one after the other, each against the version before it
and with the registry that version left.  `history` is the list of the results.

The question is whether keeping things can ever show something else than building everything
afresh.  Suppose that what is built for a node is a function of its fingerprint.  A pair that is
compared keeps only what has the right fingerprint.  A pair before the safe boundary is not
compared, so there the two fingerprints have to agree by assumption (`AgreesToBoundary`).  Then
every step of every history shows what a rebuild of its version would show.

The invariant behind it links the registry to the version it was made for: it holds, for each block
of that version, the value of the block's fingerprint.
-/

namespace MarkdownPager

universe u v

variable {σ : Type u} {π : Type v}

namespace Reconcile

/-- The results of reconciling `versions` one after the other, each with the version it shows. -/
def history (materialize : Materializer σ π) (current : Option Document) (registry : Registry π)
    (state : σ) : List Document → List (Document × Reconciliation π)
  | [] => []
  | version :: versions =>
    let (result, state) := reconcile materialize current version registry state
    (version, result) :: history materialize (some version) result.registry state versions

/-- If the later step kept the blocks before a boundary, then these blocks have the same
fingerprints in both versions. -/
def AgreesToBoundary (before after : Document × Reconciliation π) : Prop :=
  ∀ boundary, after.2.strategy = .safeBoundary boundary →
    (before.1.blocks.take boundary).map (·.fingerprint) =
      (after.1.blocks.take boundary).map (·.fingerprint)

/-- Only the strategy and the two versions matter. -/
theorem agreesToBoundary_reconcile {old new : Document} {materialize : Materializer σ π}
    {registry : Registry π} {state : σ} {result : Reconciliation π}
    (agree : ∀ boundary, strategyFor (some old) new = .safeBoundary boundary →
      (old.blocks.take boundary).map (·.fingerprint) =
        (new.blocks.take boundary).map (·.fingerprint)) :
    AgreesToBoundary (old, result)
      (new, (reconcile materialize (some old) new registry state).1) :=
  fun boundary strategy => agree boundary ((strategy_reconcile ..).symm.trans strategy)

theorem map_fst_history (materialize : Materializer σ π) (versions : List Document) :
    ∀ (current : Option Document) (registry : Registry π) (state : σ),
      (history materialize current registry state versions).map (·.1) = versions := by
  induction versions with
  | nil => intro current registry state; rfl
  | cons version versions ih =>
      intro current registry state
      rw [history, List.map_cons, ih]

/-- What is shown for a block is the value of its fingerprint. -/
def ShowsValue (value : Fingerprint → π) : Nat → Node → π → Prop :=
  fun _ node presented => presented = value node.fingerprint

section Values

variable {value : Fingerprint → π} {materialize : Materializer σ π}

/-- The nodes of a covering by values. -/
theorem nodes_eq_of_covering {blocks : List Node} {nodes : List π} {registry : Registry π}
    (covering : Covering (ShowsValue value) blocks nodes registry) :
    nodes = blocks.map fun node => value node.fingerprint :=
  covering.nodes_eq_map fun _ _ _ shows => shows

/-- The registry of a covering by values holds the value of each block. -/
theorem get?_of_covering {blocks : List Node} {nodes : List π} {registry : Registry π}
    (covering : Covering (ShowsValue value) blocks nodes registry) {node : Node}
    (member : node ∈ blocks) : registry.get? node.id = some (value node.fingerprint) := by
  obtain ⟨index, present⟩ := List.mem_iff_getElem?.mp member
  rw [covering.get?_id present, nodes_eq_of_covering covering, List.getElem?_map, present]
  rfl

/-- Two blocks at one place before the boundary have the same fingerprint. -/
theorem fingerprint_eq_of_take_eq {olds news : List Node} {boundary index : Nat}
    (agree : (olds.take boundary).map (·.fingerprint) =
      (news.take boundary).map (·.fingerprint)) (bound : index < boundary) {old new : Node}
    (inOld : olds[index]? = some old) (inNew : news[index]? = some new) :
    old.fingerprint = new.fingerprint := by
  have same := congrArg (·[index]?) agree
  simpa [List.getElem?_take, bound, inOld, inNew] using same

variable (pure : ∀ node state, (materialize node state).1 = value node.fingerprint)

include pure in
/-- The first version of a history. -/
theorem covering_of_none {version : Document} (distinct : (version.blocks.map (·.id)).Nodup)
    (registry : Registry π) (state : σ) :
    Covering (ShowsValue value) version.blocks
      (reconcile materialize none version registry state).1.nodes
      (reconcile materialize none version registry state).1.registry := by
  refine (reconcile_covering (fun _ => True) (ShowsValue value) distinct ?_ ?_ trivial).1
  · intro index node presented _ offered
    rw [offer?_none] at offered
    cases offered
  · intro index node _ _ state _
    exact ⟨pure node state, trivial⟩

include pure in
/-- **One step of a history.**  If the registry holds the values of the old blocks, what is kept is
right for the new ones, by comparison or by the assumption about the boundary. -/
theorem covering_of_covering {old new : Document} {nodes : List π} {registry : Registry π}
    (covering : Covering (ShowsValue value) old.blocks nodes registry)
    (distinct : (new.blocks.map (·.id)).Nodup)
    (agree : ∀ boundary, strategyFor (some old) new = .safeBoundary boundary →
      (old.blocks.take boundary).map (·.fingerprint) =
        (new.blocks.take boundary).map (·.fingerprint)) (state : σ) :
    Covering (ShowsValue value) new.blocks
      (reconcile materialize (some old) new registry state).1.nodes
      (reconcile materialize (some old) new registry state).1.registry := by
  refine (reconcile_covering (fun _ => True) (ShowsValue value) distinct ?_ ?_ trivial).1
  · intro index node presented present offered
    obtain ⟨_, before, ⟨⟩, partner, held, reason⟩ := offer?_eq_some offered
    have member : before ∈ old.blocks := List.mem_of_getElem? partner
    rw [get?_of_covering covering member, Option.some.injEq] at held
    have same : before.fingerprint = node.fingerprint := by
      rcases reason with ⟨-, same⟩ | ⟨boundary, strategy, bound⟩
      · rw [sameContent, Bool.and_eq_true] at same
        exact eq_of_beq same.2
      · exact fingerprint_eq_of_take_eq (agree boundary strategy) bound partner present
    rw [ShowsValue, ← held, same]
  · intro index node _ _ state _
    exact ⟨pure node state, trivial⟩

include pure in
/-- **A whole history.**  The invariant goes from each step to the next. -/
theorem covering_of_mem_history {versions : List Document} :
    ∀ {version : Document} {result : Reconciliation π} {state : σ},
      Covering (ShowsValue value) version.blocks result.nodes result.registry →
      (∀ next ∈ versions, (next.blocks.map (·.id)).Nodup) →
      ((version, result) :: history materialize (some version) result.registry state
        versions).IsChain AgreesToBoundary →
      ∀ step ∈ history materialize (some version) result.registry state versions,
        Covering (ShowsValue value) step.1.blocks step.2.nodes step.2.registry := by
  induction versions with
  | nil =>
      intro version result state _ _ _ step member
      simp [history] at member
  | cons next versions ih =>
      intro version result state covering distinct agree step member
      rw [history] at agree member
      obtain ⟨agreeFirst, agreeRest⟩ := List.isChain_cons_cons.mp agree
      rw [List.forall_mem_cons] at distinct
      have first := covering_of_covering pure covering distinct.1 (fun boundary strategy =>
        agreeFirst boundary ((strategy_reconcile ..).trans strategy)) state
      rcases List.mem_cons.mp member with rfl | later
      · exact first
      · exact ih first distinct.2 agreeRest step later

include pure in
/-- **Reconciling refines rebuilding.**  Along every history, each step shows the value of every
block in order, which is what a rebuild shows, and registers these values. -/
theorem history_eq_rebuild {versions : List Document}
    (distinct : ∀ version ∈ versions, (version.blocks.map (·.id)).Nodup) {state : σ}
    (agree : (history materialize none .empty state versions).IsChain AgreesToBoundary) :
    (history materialize none .empty state versions).map (·.1) = versions ∧
      ∀ step ∈ history materialize none .empty state versions,
        step.2.nodes = (step.1.blocks.map fun node => value node.fingerprint) ∧
        (∀ state, step.2.nodes = (rebuild materialize step.1 state).1.nodes) ∧
        ∀ node ∈ step.1.blocks,
          step.2.registry.get? node.id = some (value node.fingerprint) := by
  refine ⟨map_fst_history materialize versions none .empty state, fun step member => ?_⟩
  have covering : Covering (ShowsValue value) step.1.blocks step.2.nodes step.2.registry := by
    cases versions with
    | nil => simp [history] at member
    | cons version versions =>
        rw [List.forall_mem_cons] at distinct
        have first := covering_of_none pure distinct.1 .empty state
        rw [history] at agree member
        rcases List.mem_cons.mp member with rfl | later
        · exact first
        · exact covering_of_mem_history pure first distinct.2 agree step later
  have version : step.1 ∈ versions := by
    rw [← map_fst_history materialize versions none .empty state]
    exact List.mem_map_of_mem member
  refine ⟨nodes_eq_of_covering covering, fun state => ?_,
    fun node => get?_of_covering covering⟩
  have rebuilt := covering_of_none pure (distinct step.1 version) .empty state
  exact (nodes_eq_of_covering covering).trans (nodes_eq_of_covering rebuilt).symm

end Values

/-! ## A history with all strategies -/

/-- Shows fingerprints, and counts what was built. -/
def showFingerprint : Materializer Nat String :=
  fun node built => (node.fingerprint.text, built + 1)

/-- A paragraph of one text. -/
def sampleNode (id start stop : Nat) (text : String) : Node :=
  ⟨⟨id⟩, ⟨start, stop⟩, .paragraph [.text text]⟩

/-- A text, an extension of it that keeps a block before the boundary, a change that keeps the
second of two blocks, a version without blocks, and one after it with an inverted span. -/
def sampleVersions : List Document :=
  [⟨"A\n\nB", [sampleNode 1 0 1 "A", sampleNode 2 3 4 "B"]⟩,
    ⟨"A\n\nB\n\nC", [sampleNode 3 0 1 "A", sampleNode 4 3 4 "B", sampleNode 5 6 7 "C"]⟩,
    ⟨"X\n\nB", [sampleNode 6 0 1 "X", sampleNode 7 3 4 "B"]⟩,
    ⟨"", []⟩,
    ⟨"A\nB", [sampleNode 8 3 1 "A B"]⟩]

/-- All strategies occur in the sample, and the theorem applies to it. -/
theorem history_eq_rebuild_sampleVersions :
    (history showFingerprint none .empty 0 sampleVersions).map (·.2.strategy) =
        [.rebuild, .safeBoundary 1, .positional, .positional, .rebuild] ∧
      (∀ version ∈ sampleVersions, (version.blocks.map (·.id)).Nodup) ∧
      (history showFingerprint none .empty 0 sampleVersions).IsChain AgreesToBoundary ∧
      ∀ step ∈ history showFingerprint none .empty 0 sampleVersions,
        step.2.nodes = (step.1.blocks.map fun node => node.fingerprint.text) ∧
        (∀ state, step.2.nodes = (rebuild showFingerprint step.1 state).1.nodes) ∧
        ∀ node ∈ step.1.blocks,
          step.2.registry.get? node.id = some node.fingerprint.text := by
  have distinct : ∀ version ∈ sampleVersions, (version.blocks.map (·.id)).Nodup := by
    decide +kernel
  have agree : (history showFingerprint none .empty 0 sampleVersions).IsChain AgreesToBoundary := by
    simp only [sampleVersions, history, List.isChain_cons_cons, List.isChain_singleton, and_true]
    refine ⟨agreesToBoundary_reconcile ?_, agreesToBoundary_reconcile ?_,
      agreesToBoundary_reconcile ?_, agreesToBoundary_reconcile ?_⟩ <;> intro boundary strategy
    · have : strategyFor (some sampleVersions[0]) sampleVersions[1] = .safeBoundary 1 := by
        decide +kernel
      cases this.symm.trans strategy
      rfl
    · have : strategyFor (some sampleVersions[1]) sampleVersions[2] = .positional := by
        decide +kernel
      cases this.symm.trans strategy
    · have : strategyFor (some sampleVersions[2]) sampleVersions[3] = .positional := by
        decide +kernel
      cases this.symm.trans strategy
    · have : strategyFor (some sampleVersions[3]) sampleVersions[4] = .rebuild := by
        decide +kernel
      cases this.symm.trans strategy
  have pure : ∀ node state, (showFingerprint node state).1 = Fingerprint.text node.fingerprint :=
    fun _ _ => rfl
  exact ⟨by decide +kernel, distinct, agree, (history_eq_rebuild pure distinct agree).2⟩

end Reconcile

end MarkdownPager
