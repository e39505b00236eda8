import MarkdownPager.Markdown.Blocks
import MarkdownPager.Proofs.Workbench

/-!
# Which prepared version can be committed

Any number of versions can be prepared before one of them is committed.  Preparing numbers them, and
a commit compares the number of a version with the number of the latest one.  Nothing else counts
the number up, so a version can be committed exactly as long as no other one has been prepared since
(`revision_eq_iff`), by itself or for an update.

A commit either shows the whole version or changes nothing.
-/

namespace MarkdownPager.Workbench

universe u v

variable {σ : Type u} {π : Type v}

/-! ## Counting versions -/

theorem run_append (bench : Workbench σ π) (before after : List Action) :
    bench.run (before ++ after) = (bench.run before).run after :=
  List.foldl_append

/-- The revision counts the versions that were prepared. -/
theorem revision_run (actions : List Action) :
    ∀ bench : Workbench σ π,
      (bench.run actions).live.revision = bench.live.revision + actions.countP (·.prepares) := by
  induction actions with
  | nil => exact fun bench => rfl
  | cons action actions ih =>
      intro bench
      have rest : (bench.run (action :: actions)).live.revision =
          (bench.step action).2.live.revision + actions.countP (·.prepares) := ih _
      rw [rest, revision_step, List.countP_cons]
      cases action.prepares <;> simp [Nat.add_assoc, Nat.add_comm 1]

/-- **A version is the latest** as long as no other one is prepared. -/
theorem revision_eq_iff (bench : Workbench σ π) (text : String) (after : List Action) :
    (bench.live.prepare text).1.revision =
        ((bench.step (.prepare text)).2.run after).live.revision ↔
      ∀ action ∈ after, action.prepares = false := by
  rw [revision_run, revision_step, LiveDocument.revision_prepare]
  have one : (Action.prepare text).prepares.toNat = 1 := rfl
  rw [one, Nat.left_eq_add, List.countP_eq_zero]
  simp

/-- **Where an outstanding version was prepared**: before the run, or by one of its actions. -/
theorem exists_prepare_of_mem_outstanding (actions : List Action) :
    ∀ {bench : Workbench σ π} {pending : PendingUpdate π},
      pending ∈ (bench.run actions).outstanding →
      pending ∈ bench.outstanding ∨
        ∃ before text after, actions = before ++ .prepare text :: after ∧
          pending = ((bench.run before).live.prepare text).1 := by
  induction actions with
  | nil => exact fun member => .inl member
  | cons action actions ih =>
      intro bench pending member
      rcases ih member with outstanding | ⟨before, text, after, rfl, rfl⟩
      · rcases bench.mem_outstanding_step outstanding with outstanding | ⟨text, rfl, rfl⟩
        · exact .inl outstanding
        · exact .inr ⟨[], text, actions, rfl, rfl⟩
      · exact .inr ⟨action :: before, text, after, rfl, rfl⟩

/-! ## What a commit does -/

/-- A version is shown: its text, all it has to show, and its number. -/
structure Shows (pending : PendingUpdate π) (text : String) (step : Outcome × Workbench σ π) :
    Prop where
  outcome : step.1 = .shown pending.applied
  source : step.2.live.current.map (·.source) = some text
  nodes : step.2.live.nodes = pending.result.nodes
  revision : step.2.live.revision = pending.revision

/-- A version is refused because of a later one, and leaves the live document as it was. -/
structure Refuses (bench : Workbench σ π) (pending : PendingUpdate π)
    (step : Outcome × Workbench σ π) : Prop where
  outcome : step.1 = .refused (.superseded pending.revision bench.live.revision)
  live : step.2.live = bench.live

/-- A commit of the latest version shows it, and a commit of any other is refused. -/
theorem step_commit_spec (bench : Workbench σ π) {index : Nat} {pending : PendingUpdate π}
    (present : bench.outstanding[index]? = some pending) :
    (pending.revision = bench.live.revision →
      Shows pending pending.document.source (bench.step (.commit index))) ∧
    (pending.revision ≠ bench.live.revision →
      Refuses bench pending (bench.step (.commit index))) := by
  rcases bench.step_commit_cases index with
    ⟨absent, -⟩ | ⟨other, here, current, same⟩ | ⟨other, here, stale, same⟩
  · simp [absent] at present
  · obtain rfl : other = pending := Option.some.inj (here.symm.trans present)
    rw [same]
    exact ⟨fun _ => ⟨rfl, rfl, rfl, current.symm⟩, fun stale => absurd current stale⟩
  · obtain rfl : other = pending := Option.some.inj (here.symm.trans present)
    rw [same]
    exact ⟨fun current => absurd current stale, fun _ => ⟨rfl, rfl⟩⟩

/-- **A commit is all or nothing, and only the latest version can be committed.**  In every run,
each outstanding version was prepared by one of the actions.  Committing it shows it as a whole if
no action behind that one prepares another version; otherwise it is refused, and nothing changes.
Preparing a text changes nothing that is visible, and an update never fails. -/
theorem commit_all_or_nothing (reader : Markdown.Reader) (materialize : Materializer σ π)
    (state : σ) :
    let run := (start reader materialize state).run
    (∀ actions, ∀ pending ∈ (run actions).outstanding, ∃ before text after,
      actions = before ++ .prepare text :: after ∧
        pending = ((run before).live.prepare text).1) ∧
    (∀ before text after index,
      let pending := ((run before).live.prepare text).1
      let bench := run (before ++ .prepare text :: after)
      let step := bench.step (.commit index)
      bench.outstanding[index]? = some pending →
        ((∃ applied, step.1 = .shown applied) ↔ ∀ action ∈ after, action.prepares = false) ∧
        ((∃ applied, step.1 = .shown applied) → Shows pending text step) ∧
        ((¬ ∃ applied, step.1 = .shown applied) → Refuses bench pending step)) ∧
    ∀ actions text,
      let live := (run actions).live
      let prepared := (live.prepare text).2
      (prepared.current = live.current ∧ prepared.nodes = live.nodes ∧
        prepared.registry = live.registry) ∧
      ∃ applied updated, live.update text = .ok (applied, updated) := by
  intro run
  refine ⟨fun actions pending member => ?_, ?_, fun actions text => ⟨⟨rfl, rfl, rfl⟩, ?_⟩⟩
  · rcases exists_prepare_of_mem_outstanding actions member with outstanding | prepared
    · simp [start] at outstanding
    · exact prepared
  · intro before text after index pending bench step present
    obtain ⟨shows, refuses⟩ := bench.step_commit_spec present
    -- The run is cut at the preparation, and what follows it tells whether the version is current.
    have cut : bench = ((run before).step (.prepare text)).2.run after := run_append ..
    have current : pending.revision = bench.live.revision ↔
        ∀ action ∈ after, action.prepares = false := by
      rw [cut]
      exact (run before).revision_eq_iff text after
    have shown : (∃ applied, step.1 = .shown applied) ↔ pending.revision = bench.live.revision := by
      constructor
      · rintro ⟨applied, shown⟩
        by_contra stale
        exact absurd (shown.symm.trans (refuses stale).outcome) (by simp)
      · exact fun latest => ⟨_, (shows latest).outcome⟩
    exact ⟨shown.trans current, fun success => shows (shown.mp success),
      fun failure => refuses (mt shown.mpr failure)⟩
  · exact ⟨_, _, LiveDocument.update_eq _ _⟩

/-- Of two prepared versions, the first one is refused, and the second one is shown. -/
theorem commit_all_or_nothing_two_versions :
    let bench :=
      (start Markdown.eventsOf (fun _ state => ((), state)) ()).run
        [.prepare "one", .prepare "two"]
    bench.outstanding.length = 2 ∧
      ((bench.step (.commit 0)).1 = .refused (.superseded 1 2) ∧
        (bench.step (.commit 0)).2.live = bench.live) ∧
      (bench.step (.commit 1)).2.live.current.map (·.source) = some "two" := by
  intro bench
  obtain ⟨-, commits, -⟩ :=
    commit_all_or_nothing Markdown.eventsOf (fun _ state => ((), state)) ()
  obtain ⟨shownFirst, -, refused⟩ := commits [] "one" [.prepare "two"] 0 rfl
  obtain ⟨shownSecond, shows, -⟩ := commits [.prepare "one"] "two" [] 1 rfl
  have first := refused fun success => by simpa [Action.prepares] using shownFirst.mp success
  have second := shows (shownSecond.mpr (by simp))
  exact ⟨rfl, ⟨first.outcome, first.live⟩, second.source⟩

end MarkdownPager.Workbench
