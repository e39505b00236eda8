import Mathlib
import MarkdownPager.Markdown.Blocks
import MarkdownPager.Proofs.Naturality

/-!
# Whether an invalidation is final

An invalidation forgets the document and the registry, so nothing built before it can be kept by a
version that is prepared after it.  It does not touch the versions that are prepared already.  If
one of them is the newest, it can still be committed, and then what was built before is shown again
and kept from there on.

When something was built is a question about order, so a materializer is made to date what it
builds: `dated` writes on each thing the number of things built before it.  By `Workbench.trace_map`
a run with dates is the run without them, dates apart.

* `Knows` — the invariant: everything in the registry, and everything that a version outside a set
  of old ones would show, has a property that building establishes.
* `invalidation_final_iff` — after an invalidation nothing older is ever shown or kept, exactly when
  no version prepared before it is committed after it, versions without blocks apart.
* `invalidation_not_final` — a run in which that happens.
-/

namespace MarkdownPager

universe u v

variable {σ : Type u} {π : Type v}

/-! ## Dates -/

/-- Writes on everything built how many things were built before it. -/
def dated (materialize : Materializer σ π) : Materializer (σ × Nat) (π × Nat) :=
  fun node state =>
    (((materialize node state.1).1, state.2), ((materialize node state.1).2, state.2 + 1))

theorem isImage_dated (materialize : Materializer σ π) :
    IsImage Prod.fst Prod.fst materialize (dated materialize) :=
  fun _ _ => rfl

/-! ## Properties that building establishes -/

/-- Whatever is built is `New`, and nothing that is `New` ceases to be so while `Holds` is true of
the states of the materializer. -/
structure Establishes (materialize : Materializer σ π) (Holds : σ → Prop) (New : σ → π → Prop) :
    Prop where
  new : ∀ node state, Holds state → New (materialize node state).2 (materialize node state).1
  holds : ∀ node state, Holds state → Holds (materialize node state).2
  lasts : ∀ node state, Holds state → ∀ presented,
    New state presented → New (materialize node state).2 presented

/-- Everything dated is older than what is built next. -/
theorem establishes_lt_count (materialize : Materializer σ π) :
    Establishes (dated materialize) (fun _ => True) (fun state presented => presented.2 < state.2)
    where
  new _ state _ := Nat.lt_succ_self state.2
  holds _ _ _ := trivial
  lasts _ _ _ _ older := Nat.lt_succ_of_lt older

/-- What is built from some moment on has no earlier date. -/
theorem establishes_since (materialize : Materializer σ π) (since : Nat) :
    Establishes (dated materialize) (fun state => since ≤ state.2)
      (fun _ presented => since ≤ presented.2) where
  new _ _ reached := reached
  holds _ _ reached := Nat.le_succ_of_le reached
  lasts _ _ _ _ later := later

/-- A version prepared while the registry is `New` shows only what is `New`. -/
theorem LiveDocument.prepare_new {live : LiveDocument σ π} {Holds : σ → Prop}
    {New : σ → π → Prop} (establishes : Establishes live.materialize Holds New)
    (holds : Holds live.state)
    (registry : ∀ entry ∈ live.registry.entries, New live.state entry.2) (text : String) :
    Covering (fun _ _ => New (live.prepare text).2.state) (live.prepare text).1.document.blocks
        (live.prepare text).1.result.nodes (live.prepare text).1.result.registry ∧
      Holds (live.prepare text).2.state ∧
      ∀ presented, New live.state presented → New (live.prepare text).2.state presented := by
  -- The states met on the way also remember what was `New` at the beginning.
  refine live.prepare_covering text
    (fun state => Holds state ∧ ∀ presented, New live.state presented → New state presented)
    (fun state _ _ => New state) ?_ ?_ ?_ ⟨holds, fun _ new => new⟩
  · intro state reached node _ _ presented new
    exact establishes.lasts node state reached.1 presented new
  · intro index node presented _ offered state reached
    obtain ⟨entry, member, rfl⟩ := exists_mem_registry_of_offer offered
    exact reached.2 entry.2 (registry entry member)
  · intro index node _ _ state reached
    refine ⟨establishes.new node state reached.1, establishes.holds node state reached.1, ?_⟩
    intro presented new
    exact establishes.lasts node state reached.1 presented (reached.2 presented new)

namespace Workbench

/-! ## The invariant -/

/-- Everything in the registry is `New`, and so is everything that an outstanding version shows,
unless its revision is among the `Old` ones. -/
structure Knows (Holds : σ → Prop) (New : σ → π → Prop) (Old : Nat → Prop)
    (bench : Workbench σ π) : Prop where
  state : Holds bench.live.state
  registry : ∀ entry ∈ bench.live.registry.entries, New bench.live.state entry.2
  later : ∀ revision, bench.live.revision < revision → ¬ Old revision
  outstanding : ∀ pending ∈ bench.outstanding,
    Covering (fun _ _ presented => ¬ Old pending.revision → New bench.live.state presented)
      pending.document.blocks pending.result.nodes pending.result.registry

/-- What an action shows is `New`. -/
def ShowsNew (New : σ → π → Prop) (step : Outcome × Workbench σ π) : Prop :=
  ∀ applied, step.1 = .shown applied → ∀ presented ∈ step.2.live.nodes,
    New step.2.live.state presented

/-- What an action shows, if it is an old version, has no blocks. -/
def ShowsNothingOld (Old : Nat → Prop) (step : Outcome × Workbench σ π) : Prop :=
  ∀ applied, step.1 = .shown applied → Old applied.revision → step.2.live.nodes = []

variable {Holds : σ → Prop} {New : σ → π → Prop} {Old : Nat → Prop} {bench : Workbench σ π}

theorem Knows.prepare (knows : bench.Knows Holds New Old)
    (establishes : Establishes bench.live.materialize Holds New) (text : String) :
    (bench.step (.prepare text)).2.Knows Holds New Old := by
  obtain ⟨covering, holds, lasts⟩ :=
    LiveDocument.prepare_new establishes knows.state knows.registry text
  rw [step_prepare]
  refine ⟨holds, fun entry member => lasts _ (knows.registry entry member), ?_, ?_⟩
  · intro revision above
    exact knows.later revision (Nat.lt_of_succ_lt above)
  · intro pending member
    rcases List.mem_append.mp member with before | added
    · exact (knows.outstanding pending before).imp fun _ _ presented new young =>
        lasts presented (new young)
    · rw [List.mem_singleton.mp added]
      exact covering.imp fun _ _ _ new _ => new

/-- Showing a version whose nodes are all `New` leaves only what is `New`. -/
theorem registry_showing {live : LiveDocument σ π} {pending : PendingUpdate π} {New : π → Prop}
    (covering : Covering (fun _ _ => New) pending.document.blocks pending.result.nodes
      pending.result.registry) :
    ∀ entry ∈ (live.showing pending).registry.entries, New entry.2 := by
  intro entry member
  have shown := covering.mem_nodes_of_mem_entries
    (Registry.mem_entries_of_mem_evictAllExcept _ member)
  obtain ⟨_, _, new⟩ := covering.exists_shows_of_mem shown
  exact new

/-- A version whose nodes are all `New` may be shown, whatever remains outstanding. -/
theorem Knows.showing (knows : bench.Knows Holds New Old) {pending : PendingUpdate π}
    (covering : Covering (fun _ _ => New bench.live.state) pending.document.blocks
      pending.result.nodes pending.result.registry)
    {rest : List (PendingUpdate π)} (subset : rest ⊆ bench.outstanding) :
    Knows Holds New Old ⟨bench.live.showing pending, rest⟩ ∧
      ∀ presented ∈ pending.result.nodes, New bench.live.state presented := by
  refine ⟨⟨knows.state, registry_showing covering, knows.later, ?_⟩, ?_⟩
  · intro other member
    exact knows.outstanding other (subset member)
  · intro presented member
    obtain ⟨_, _, new⟩ := covering.exists_shows_of_mem member
    exact new

/-- **One step.**  Nothing but an old version that is shown can end what is known. -/
theorem Knows.step (knows : bench.Knows Holds New Old)
    (establishes : Establishes bench.live.materialize Holds New) (action : Action)
    (nothing : ShowsNothingOld Old (bench.step action)) :
    (bench.step action).2.Knows Holds New Old ∧ ShowsNew New (bench.step action) := by
  cases action with
  | prepare text =>
      refine ⟨knows.prepare establishes text, fun applied shown => ?_⟩
      simp [step_prepare] at shown
  | update text =>
      have prepared := knows.prepare establishes text
      rw [step_prepare] at prepared
      have last :
          (bench.live.prepare text).1 ∈ bench.outstanding ++ [(bench.live.prepare text).1] := by
        simp
      have young : ¬ Old (bench.live.prepare text).1.revision :=
        knows.later _ (Nat.lt_succ_self _)
      have covering := (prepared.outstanding _ last).imp fun _ _ _ new => new young
      obtain ⟨known, new⟩ := prepared.showing covering (List.subset_append_left _ _)
      rw [step_update]
      exact ⟨known, fun _ _ => new⟩
  | invalidate =>
      refine ⟨⟨knows.state, ?_, knows.later, knows.outstanding⟩, fun applied shown => ?_⟩
      · intro entry member
        simp [step_invalidate, LiveDocument.invalidate, Registry.empty] at member
      · simp [step_invalidate] at shown
  | commit index =>
      rcases bench.step_commit_cases index with
        ⟨-, same⟩ | ⟨pending, present, -, same⟩ | ⟨pending, present, -, same⟩
      · rw [same]
        exact ⟨knows, fun applied shown => by simp at shown⟩
      · rw [same] at nothing ⊢
        have covered := knows.outstanding pending (List.mem_of_getElem? present)
        have covering : Covering (fun _ _ => New bench.live.state) pending.document.blocks
            pending.result.nodes pending.result.registry := by
          -- An old version has nothing to show, so it leaves nothing that is not `New` either.
          by_cases old : Old pending.revision
          · have none : pending.result.nodes = [] := nothing pending.applied rfl old
            exact ⟨covered.length_eq, fun _ shown => by simp [none] at shown, covered.entries_eq⟩
          · exact covered.imp fun _ _ _ new => new old
        obtain ⟨known, new⟩ := knows.showing covering List.eraseIdx_subset
        exact ⟨known, fun _ _ => new⟩
      · rw [same]
        refine ⟨⟨knows.state, knows.registry, knows.later, fun other member => ?_⟩,
          fun applied shown => by simp at shown⟩
        exact knows.outstanding other (List.mem_of_mem_eraseIdx member)

/-- **A whole run.**  As long as no old version is shown, everything shown is `New`. -/
theorem Knows.trace (actions : List Action) :
    ∀ {bench : Workbench σ π}, bench.Knows Holds New Old →
      Establishes bench.live.materialize Holds New →
      (∀ step ∈ bench.trace actions, ShowsNothingOld Old step) →
      ∀ step ∈ bench.trace actions, step.2.Knows Holds New Old ∧ ShowsNew New step := by
  induction actions with
  | nil =>
      intro bench _ _ _ step member
      simp [Workbench.trace] at member
  | cons action actions ih =>
      intro bench knows establishes nothing
      rw [Workbench.trace, List.forall_mem_cons] at nothing
      rw [Workbench.trace, List.forall_mem_cons]
      have first := knows.step establishes action nothing.1
      refine ⟨first, ih first.1 ?_ nothing.2⟩
      rwa [materialize_step]

/-- Before any invalidation there is nothing old to be shown. -/
theorem Knows.run (actions : List Action) (knows : bench.Knows Holds New fun _ => False)
    (establishes : Establishes bench.live.materialize Holds New) :
    (bench.run actions).Knows Holds New fun _ => False := by
  -- The next step needs to know of the materializer, too.
  refine (run_induction (motive := fun later => later.Knows Holds New (fun _ => False) ∧
    Establishes later.live.materialize Holds New) ?_ actions ⟨knows, establishes⟩).1
  intro later holds action
  refine ⟨(holds.1.step holds.2 action fun _ _ old => old.elim).1, ?_⟩
  rw [materialize_step]
  exact holds.2

theorem knows_start {reader : Markdown.Reader} {materialize : Materializer σ π} {state : σ}
    (holds : Holds state) :
    (start reader materialize state).Knows Holds New fun _ => False where
  state := holds
  registry entry member := by simp [start, LiveDocument.start, Registry.empty] at member
  later _ _ old := old
  outstanding pending member := by simp [start] at member

/-! ## Versions prepared before -/

/-- What the versions up to a revision would show is `Past`. -/
structure Elders (revision : Nat) (Past : π → Prop) (bench : Workbench σ π) : Prop where
  revision_le : revision ≤ bench.live.revision
  past : ∀ pending ∈ bench.outstanding, pending.revision ≤ revision →
    ∀ presented ∈ pending.result.nodes, Past presented

theorem Elders.step {revision : Nat} {Past : π → Prop} (elders : bench.Elders revision Past)
    (action : Action) : (bench.step action).2.Elders revision Past where
  revision_le := Nat.le_trans elders.revision_le (bench.revision_le_step action)
  past := by
    intro pending member old
    rcases bench.mem_outstanding_step member with before | ⟨text, rfl, rfl⟩
    · exact elders.past pending before old
    · have young : bench.live.revision + 1 ≤ revision := old
      exact absurd elders.revision_le (by omega)

/-- A version up to the revision shows what is `Past`. -/
theorem Elders.past_of_shown {revision : Nat} {Past : π → Prop}
    (elders : bench.Elders revision Past) {action : Action} {applied : Applied}
    (shown : (bench.step action).1 = .shown applied) (old : applied.revision ≤ revision) :
    ∀ presented ∈ (bench.step action).2.live.nodes, Past presented := by
  obtain ⟨pending, rfl, nodes, ⟨member, -⟩ | ⟨text, -, rfl⟩⟩ := bench.exists_of_step_shown shown
  · rw [nodes]
    exact elders.past pending member old
  · have young : bench.live.revision + 1 ≤ revision := old
    exact absurd elders.revision_le (by omega)

theorem Elders.trace {revision : Nat} {Past : π → Prop} (actions : List Action) :
    ∀ {bench : Workbench σ π}, bench.Elders revision Past →
      ∀ step ∈ bench.trace actions, ∀ applied, step.1 = .shown applied →
        applied.revision ≤ revision → ∀ presented ∈ step.2.live.nodes, Past presented := by
  induction actions with
  | nil =>
      intro bench _ step member
      simp [Workbench.trace] at member
  | cons action actions ih =>
      intro bench elders
      rw [Workbench.trace, List.forall_mem_cons]
      exact ⟨fun applied => elders.past_of_shown, ih (elders.step action)⟩

/-! ## When an invalidation is final -/

/-- Nothing older than `since` is shown by an action, kept in the registry it leaves, or shown by a
version prepared after `revision`. -/
structure Forgets (since revision : Nat) (step : Outcome × Workbench (σ × Nat) (π × Nat)) :
    Prop where
  shown : ∀ applied, step.1 = .shown applied → ∀ presented ∈ step.2.live.nodes,
    since ≤ presented.2
  registry : ∀ entry ∈ step.2.live.registry.entries, since ≤ entry.2.2
  outstanding : ∀ pending ∈ step.2.outstanding, revision < pending.revision →
    ∀ presented ∈ pending.result.nodes, since ≤ presented.2

theorem Knows.forgets {since revision : Nat} {step : Outcome × Workbench (σ × Nat) (π × Nat)}
    (knows : step.2.Knows (fun state => since ≤ state.2) (fun _ presented => since ≤ presented.2)
      (· ≤ revision))
    (shows : ShowsNew (fun _ presented => since ≤ presented.2) step) :
    Forgets since revision step where
  shown := shows
  registry := knows.registry
  outstanding pending member young presented shown := by
    obtain ⟨_, _, new⟩ := (knows.outstanding pending member).exists_shows_of_mem shown
    exact new (Nat.not_le_of_lt young)

/-- What is known right after an invalidation, where everything is old and nothing is kept. -/
theorem Knows.invalidate {Holds : σ → Prop} {New : σ → π → Prop}
    (knows : bench.Knows Holds New fun _ => False) (numbered : bench.Numbered)
    {Holds' : σ → Prop} {New' : σ → π → Prop} (holds : Holds' bench.live.state) :
    (bench.step .invalidate).2.Knows Holds' New' (· ≤ bench.live.revision) where
  state := holds
  registry entry member := by
    simp [step_invalidate, LiveDocument.invalidate, Registry.empty] at member
  later revision above := Nat.not_le_of_lt above
  outstanding pending member :=
    (knows.outstanding pending member).imp fun _ _ _ _ young =>
      absurd (numbered pending member) young

/-- A step without its dates. -/
def undated (materialize : Materializer σ π) (step : Outcome × Workbench (σ × Nat) (π × Nat)) :
    Outcome × Workbench σ π :=
  (step.1, step.2.map materialize Prod.fst Prod.fst)

/-- Dates change nothing else. -/
theorem map_undated_trace (reader : Markdown.Reader) (materialize : Materializer σ π) (state : σ)
    (actions : List Action) :
    ((start reader (dated materialize) (state, 0)).trace actions).map (undated materialize) =
      (start reader materialize state).trace actions :=
  (trace_map actions _ (isImage_dated materialize)).symm

/-- **When an invalidation is final.**  Take any run, an invalidation in it, and dates for all that
is built, which change nothing else.  The actions after the invalidation show and keep nothing that
was built before it, exactly when none of them shows a version prepared before it, except for
versions without blocks. -/
theorem invalidation_final_iff (reader : Markdown.Reader) (materialize : Materializer σ π)
    (state : σ) (before after : List Action) :
    let bench := (start reader (dated materialize) (state, 0)).run before
    let invalidated := (bench.step .invalidate).2
    (∀ actions,
      ((start reader (dated materialize) (state, 0)).trace actions).map (undated materialize) =
        (start reader materialize state).trace actions) ∧
    ((∀ step ∈ invalidated.trace after, Forgets bench.live.state.2 bench.live.revision step) ↔
      ∀ step ∈ invalidated.trace after, ShowsNothingOld (· ≤ bench.live.revision) step) := by
  intro bench invalidated
  have runs : bench.live.materialize = dated materialize := materialize_run before _
  have known : bench.Knows (fun _ => True) (fun state presented => presented.2 < state.2)
      fun _ => False :=
    (knows_start trivial).run before (establishes_lt_count materialize)
  have numbered : bench.Numbered :=
    (numbered_start reader (dated materialize) (state, 0)).run before
  have elders : invalidated.Elders bench.live.revision (·.2 < bench.live.state.2) := by
    refine ⟨Nat.le_refl _, fun pending member _ presented shown => ?_⟩
    obtain ⟨_, _, past⟩ := (known.outstanding pending member).exists_shows_of_mem shown
    exact past not_false
  have fresh : invalidated.Knows (fun state => bench.live.state.2 ≤ state.2)
      (fun _ presented => bench.live.state.2 ≤ presented.2) (· ≤ bench.live.revision) :=
    known.invalidate numbered (Nat.le_refl _)
  refine ⟨map_undated_trace reader materialize state, fun final step member applied shown old => ?_,
    fun nothing step member => ?_⟩
  -- What a version prepared before would show is too old for a final invalidation.
  · have past := elders.trace after step member applied shown old
    refine List.eq_nil_iff_forall_not_mem.mpr fun presented visible => ?_
    have since := (final step member).shown applied shown presented visible
    exact absurd (past presented visible) (Nat.not_lt_of_le since)
  · have establishes := establishes_since materialize bench.live.state.2
    rw [← runs] at establishes
    obtain ⟨knows, shows⟩ := fresh.trace after establishes nothing step member
    exact knows.forgets shows

theorem parse_letter (firstId : Nat) :
    Document.parse Markdown.eventsOf firstId "a" =
      (⟨"a", [⟨⟨firstId + 2⟩, ⟨0, 1⟩, .paragraph [.text "a"]⟩]⟩, firstId + 3) := by
  have events : Markdown.eventsOf "a" =
      [(.opening .paragraph, ⟨0, 1⟩), (.leaf (.text "a"), ⟨0, 1⟩), (.closing, ⟨0, 1⟩)] := by cbv
  rw [Document.parse, events]
  rfl

/-- **Not every invalidation is final.**  A text is prepared, everything is invalidated, and the
prepared version is committed.  The commit shows the one thing that was built before, and the next
update keeps it. -/
theorem invalidation_not_final :
    let bench :=
      (start Markdown.eventsOf (dated fun _ state => ((), state)) ((), 0)).run [.prepare "a"]
    let later := (bench.step .invalidate).2.trace [.commit 0, .update "a"]
    bench.live.state.2 = 1 ∧
      later.map (fun step => (step.1, step.2.live.nodes)) =
        [(.shown ⟨1, [.insert 0], 1, .rebuild⟩, [((), 0)]),
          (.shown ⟨2, [.reuse 0], 0, .positional⟩, [((), 0)])] ∧
      ¬ ∀ step ∈ later, Forgets bench.live.state.2 bench.live.revision step := by
  intro bench later
  have count : bench.live.state.2 = 1 := by
    simp only [bench, run, List.foldl, step, LiveDocument.prepare, start, LiveDocument.start,
      parse_letter]
    rfl
  have reports : later.map (fun step => (step.1, step.2.live.nodes)) =
      [(.shown ⟨1, [.insert 0], 1, .rebuild⟩, [((), 0)]),
        (.shown ⟨2, [.reuse 0], 0, .positional⟩, [((), 0)])] := by
    simp only [later, bench, trace, run, List.foldl, step, settle, LiveDocument.prepare,
      LiveDocument.commit, LiveDocument.update, LiveDocument.invalidate, start, LiveDocument.start,
      parse_letter, List.nil_append, List.getElem?_cons_zero, if_true]
    -- Everything is read, and the reader itself is not to be evaluated.
    generalize Markdown.eventsOf = reader
    cbv
  refine ⟨count, reports, fun final => ?_⟩
  obtain ⟨first, member, report⟩ : ∃ first ∈ later, (first.1, first.2.live.nodes) =
      (.shown ⟨1, [.insert 0], 1, .rebuild⟩, [((), 0)]) := by
    rw [← List.mem_map, reports]
    exact List.mem_cons_self
  obtain ⟨outcome, visible⟩ := Prod.mk.inj report
  have since := (final first member).shown _ outcome ((), 0) (by rw [visible]; simp)
  rw [count] at since
  exact absurd since (by decide)

end Workbench

end MarkdownPager
