import MarkdownPager.Proofs.Live

/-!
# Runs of a live document

A caller of a live document prepares versions, commits some of them later, and may update or
invalidate in between.  A workbench is a live document with the versions that are prepared and not
yet committed; whoever commits one of them gives it away.  An action names a prepared version by
its place among the outstanding ones.

Each action has an equation of its own; `step_commit_cases` has the three ways a commit can go.
Later arguments about runs need little more than where outstanding and shown versions come from
(`mem_outstanding_step`, `exists_of_step_shown`), and that what every action preserves, a run
preserves (`run_induction`).
-/

namespace MarkdownPager

universe u v w

variable {σ : Type u} {π : Type v}

/-- A live document and the versions prepared for it. -/
structure Workbench (σ : Type u) (π : Type v) where
  live : LiveDocument σ π
  /-- What is prepared and was never committed, in the order of preparation. -/
  outstanding : List (PendingUpdate π) := []

namespace Workbench

/-- What a caller may do. -/
inductive Action where
  | prepare (text : String)
  /-- Commits the outstanding version at an index.  Nothing happens if there is none. -/
  | commit (index : Nat)
  | update (text : String)
  | invalidate
  deriving DecidableEq, Repr

/-- What a caller hears of an action. -/
inductive Outcome where
  | silent
  | shown (applied : Applied)
  | refused (failure : Error)
  deriving DecidableEq, Repr

/-- Whether an action prepares a version. -/
def Action.prepares : Action → Bool
  | .prepare _ | .update _ => true
  | .commit _ | .invalidate => false

/-- A workbench with a new live document. -/
def start (reader : Markdown.Reader) (materialize : Materializer σ π) (state : σ) :
    Workbench σ π where
  live := .start reader materialize state

/-- Takes over what a commit gives. -/
def settle (bench : Workbench σ π) :
    Except Error (Applied × LiveDocument σ π) → Outcome × Workbench σ π
  | .ok (applied, live) => (.shown applied, { bench with live })
  | .error failure => (.refused failure, bench)

/-- Does an action. -/
def step (bench : Workbench σ π) : Action → Outcome × Workbench σ π
  | .prepare text =>
    let (pending, live) := bench.live.prepare text
    (.silent, ⟨live, bench.outstanding ++ [pending]⟩)
  | .commit index =>
    match bench.outstanding[index]? with
    | none => (.silent, bench)
    | some pending =>
      { bench with outstanding := bench.outstanding.eraseIdx index }.settle
        (bench.live.commit pending)
  | .update text => bench.settle (bench.live.update text)
  | .invalidate => (.silent, { bench with live := bench.live.invalidate })

/-- Does actions one after the other. -/
def run (bench : Workbench σ π) (actions : List Action) : Workbench σ π :=
  actions.foldl (fun bench action => (bench.step action).2) bench

/-- What each of some actions reports and leaves, done one after the other. -/
def trace (bench : Workbench σ π) : List Action → List (Outcome × Workbench σ π)
  | [] => []
  | action :: actions => bench.step action :: (bench.step action).2.trace actions

/-! ## One step -/

section Step

variable (bench : Workbench σ π)

theorem step_prepare (text : String) :
    bench.step (.prepare text) =
      (.silent,
        ⟨(bench.live.prepare text).2, bench.outstanding ++ [(bench.live.prepare text).1]⟩) :=
  rfl

theorem step_update (text : String) :
    bench.step (.update text) =
      (.shown (bench.live.prepare text).1.applied,
        { bench with live := bench.live.updated text }) := by
  rw [step, LiveDocument.update_eq]
  rfl

theorem step_invalidate :
    bench.step .invalidate = (.silent, { bench with live := bench.live.invalidate }) := rfl

/-- **The three ways a commit can go.**  There is nothing to commit, the version is current and is
shown, or it is refused and given up. -/
theorem step_commit_cases (index : Nat) :
    (bench.outstanding[index]? = none ∧ bench.step (.commit index) = (.silent, bench)) ∨
    (∃ pending, bench.outstanding[index]? = some pending ∧
      pending.revision = bench.live.revision ∧
      bench.step (.commit index) =
        (.shown pending.applied,
          ⟨bench.live.showing pending, bench.outstanding.eraseIdx index⟩)) ∨
    (∃ pending, bench.outstanding[index]? = some pending ∧
      pending.revision ≠ bench.live.revision ∧
      bench.step (.commit index) =
        (.refused (.superseded pending.revision bench.live.revision),
          { bench with outstanding := bench.outstanding.eraseIdx index })) := by
  cases present : bench.outstanding[index]? with
  | none =>
      left
      simp [step, present]
  | some pending =>
      right
      by_cases current : pending.revision = bench.live.revision
      · left
        exact ⟨pending, rfl, current,
          by simp [step, present, LiveDocument.commit_eq, current, settle]⟩
      · right
        exact ⟨pending, rfl, current,
          by simp [step, present, LiveDocument.commit_eq, current, settle]⟩

/-- What preparing, showing and forgetting leave alone, every action leaves alone. -/
theorem step_eq_of_kept {α : Type w} {part : LiveDocument σ π → α}
    (prepare : ∀ live text, part (live.prepare text).2 = part live)
    (showing : ∀ live pending, part (live.showing pending) = part live)
    (invalidate : ∀ live, part live.invalidate = part live) (action : Action) :
    part (bench.step action).2.live = part bench.live := by
  cases action with
  | prepare text => exact prepare bench.live text
  | commit index =>
      rcases bench.step_commit_cases index with ⟨-, same⟩ | ⟨_, -, -, same⟩ | ⟨_, -, -, same⟩
      · rw [same]
      · rw [same]
        exact showing _ _
      · rw [same]
  | update text =>
      rw [step_update]
      exact (showing _ _).trans (prepare bench.live text)
  | invalidate => exact invalidate bench.live

/-- No action exchanges the reader. -/
theorem reader_step (action : Action) :
    (bench.step action).2.live.reader = bench.live.reader :=
  bench.step_eq_of_kept (fun _ _ => rfl) (fun _ _ => rfl) (fun _ => rfl) action

/-- No action exchanges the materializer. -/
theorem materialize_step (action : Action) :
    (bench.step action).2.live.materialize = bench.live.materialize :=
  bench.step_eq_of_kept (fun _ _ => rfl) (fun _ _ => rfl) (fun _ => rfl) action

/-- **Where outstanding versions come from.**  They were outstanding before, or were prepared. -/
theorem mem_outstanding_step {action : Action} {pending : PendingUpdate π}
    (member : pending ∈ (bench.step action).2.outstanding) :
    pending ∈ bench.outstanding ∨
      ∃ text, action = .prepare text ∧ pending = (bench.live.prepare text).1 := by
  cases action with
  | prepare text =>
      rcases List.mem_append.mp member with before | added
      · exact .inl before
      · exact .inr ⟨text, rfl, List.mem_singleton.mp added⟩
  | update text =>
      rw [step_update] at member
      exact .inl member
  | invalidate => exact .inl member
  | commit index =>
      rcases bench.step_commit_cases index with ⟨-, same⟩ | ⟨_, -, -, same⟩ | ⟨_, -, -, same⟩
      · rw [same] at member
        exact .inl member
      · rw [same] at member
        exact .inl (List.mem_of_mem_eraseIdx member)
      · rw [same] at member
        exact .inl (List.mem_of_mem_eraseIdx member)

/-- Every version that is prepared counts the revision up, and nothing else changes it. -/
theorem revision_step (action : Action) :
    (bench.step action).2.live.revision = bench.live.revision + action.prepares.toNat := by
  cases action with
  | prepare text => rfl
  | update text =>
      rw [step_update]
      rfl
  | invalidate => rfl
  | commit index =>
      rcases bench.step_commit_cases index with ⟨-, same⟩ | ⟨_, -, -, same⟩ | ⟨_, -, -, same⟩ <;>
        simp [same, LiveDocument.showing, Action.prepares]

/-- Revisions are never taken back. -/
theorem revision_le_step (action : Action) :
    bench.live.revision ≤ (bench.step action).2.live.revision := by
  rw [revision_step]
  exact Nat.le_add_right _ _

/-- **Where shown versions come from.**  They were outstanding and current, or an update prepared
them. -/
theorem exists_of_step_shown {action : Action} {applied : Applied}
    (shown : (bench.step action).1 = .shown applied) :
    ∃ pending : PendingUpdate π, applied = pending.applied ∧
      (bench.step action).2.live.nodes = pending.result.nodes ∧
      (pending ∈ bench.outstanding ∧ pending.revision = bench.live.revision ∨
        ∃ text, action = .update text ∧ pending = (bench.live.prepare text).1) := by
  cases action with
  | prepare text => simp [step_prepare] at shown
  | update text =>
      rw [step_update] at shown ⊢
      exact ⟨_, (Outcome.shown.inj shown).symm, rfl, .inr ⟨text, rfl, rfl⟩⟩
  | invalidate => simp [step_invalidate] at shown
  | commit index =>
      rcases bench.step_commit_cases index with
        ⟨-, same⟩ | ⟨pending, present, current, same⟩ | ⟨_, -, -, same⟩
      · simp [same] at shown
      · rw [same] at shown ⊢
        exact ⟨pending, (Outcome.shown.inj shown).symm, rfl,
          .inl ⟨List.mem_of_getElem? present, current⟩⟩
      · simp [same] at shown

end Step

/-! ## Runs -/

/-- **What every action preserves, a run preserves.** -/
theorem run_induction {motive : Workbench σ π → Prop}
    (step : ∀ bench, motive bench → ∀ action, motive (bench.step action).2)
    (actions : List Action) : ∀ {bench}, motive bench → motive (bench.run actions) := by
  induction actions with
  | nil => exact fun holds => holds
  | cons action actions ih => exact fun holds => ih (step _ holds action)

theorem reader_run (actions : List Action) (bench : Workbench σ π) :
    (bench.run actions).live.reader = bench.live.reader := by
  refine run_induction (motive := fun later => later.live.reader = bench.live.reader) ?_ actions rfl
  exact fun later same action => (later.reader_step action).trans same

theorem materialize_run (actions : List Action) (bench : Workbench σ π) :
    (bench.run actions).live.materialize = bench.live.materialize := by
  refine run_induction (motive := fun later => later.live.materialize = bench.live.materialize) ?_
    actions rfl
  exact fun later same action => (later.materialize_step action).trans same

/-! ## Revisions of outstanding versions -/

/-- The outstanding versions are among those prepared so far. -/
def Numbered (bench : Workbench σ π) : Prop :=
  ∀ pending ∈ bench.outstanding, pending.revision ≤ bench.live.revision

theorem Numbered.step {bench : Workbench σ π} (numbered : bench.Numbered) (action : Action) :
    (bench.step action).2.Numbered := by
  intro pending member
  rcases bench.mem_outstanding_step member with before | ⟨text, rfl, rfl⟩
  · exact Nat.le_trans (numbered pending before) (bench.revision_le_step action)
  · exact Nat.le_refl _

theorem Numbered.run {bench : Workbench σ π} (numbered : bench.Numbered) (actions : List Action) :
    (bench.run actions).Numbered :=
  run_induction (fun _ numbered => numbered.step) actions numbered

theorem numbered_start (reader : Markdown.Reader) (materialize : Materializer σ π) (state : σ) :
    (start reader materialize state).Numbered := by
  intro pending member
  simp [start] at member

end Workbench

end MarkdownPager
