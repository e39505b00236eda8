import MarkdownPager.Proofs.Reconcile

/-!
# What a reconciliation decides

`reconcile` walks over the pairs of old and new blocks and notes one decision for each of them.
The list of decisions can be told without the walk: the decision at an index depends only on the
two blocks there, on the strategy, and on whether the registry holds something for the old one.

* `decisionAt` — the decision about one pair, given which pairs are kept.
* `decisions_reconcile` — the decisions of a reconciliation are these, in the order of the indices.
* `decisions_reconcile_of_held` — with a registry that holds all old blocks, the strategy alone
  says which pairs are kept.
* `created_reconcile` — one thing is built for each decision that is neither to keep nor to remove.
* `decisions_boundary` — where the pairs before a boundary are kept, the indices are cut at the
  boundary and at the ends of both versions, and each piece has one kind of decision.
-/

namespace MarkdownPager

universe u v

variable {σ : Type u} {π : Type v}

/-- Whether the decision has something built. -/
def Decision.builds : Decision → Bool
  | .replace _ | .insert _ => true
  | .reuse _ | .remove _ => false

namespace Reconcile

/-- The decision about a pair, where a block may lack its partner; `kept` says which pairs keep
what was built. -/
def decisionAt (kept : Nat → Node → Node → Bool) (index : Nat) :
    Option Node → Option Node → Decision
  | some old, some new => if kept index old new then .reuse index else .replace index
  | none, some _ => .insert index
  | _, none => .remove index

/-- The decisions about all pairs of two versions, in the order of their indices. -/
def decisions (kept : Nat → Node → Node → Bool) (olds news : List Node) : List Decision :=
  (List.range (max olds.length news.length)).map fun index =>
    decisionAt kept index olds[index]? news[index]?

/-- Only the pairs that exist matter. -/
theorem decisions_congr {kept kept' : Nat → Node → Node → Bool} {olds news : List Node}
    (same : ∀ index, ∀ old ∈ olds, ∀ new ∈ news, kept index old new = kept' index old new) :
    decisions kept olds news = decisions kept' olds news := by
  refine List.map_congr_left fun index _ => ?_
  cases inOld : olds[index]? with
  | none => cases news[index]? <;> rfl
  | some old =>
      cases inNew : news[index]? with
      | none => rfl
      | some new =>
          have agree := same index old (List.mem_of_getElem? inOld) new
            (List.mem_of_getElem? inNew)
          rw [decisionAt, decisionAt, agree]

/-! ## The walk notes them -/

/-- The pairs that keep what was built: those that may, and for whose old block the registry holds
something. -/
def kept (keeps : Nat → Node → Node → Bool) (previous : Registry π) (index : Nat)
    (old new : Node) : Bool :=
  keeps index old new && previous.contains old.id

namespace Pass

section Walk

variable (materialize : Materializer σ π) (previous : Registry π)
  (keeps : Nat → Node → Node → Bool)

/-- Blocks without a partner are inserted one after the other. -/
theorem decisions_insertAll (news : List Node) :
    ∀ (index : Nat) (pass : Pass σ π),
      (pass.insertAll materialize index news).decisions =
        pass.decisions ++ (List.range news.length).map fun offset => .insert (index + offset) := by
  induction news with
  | nil =>
      intro index pass
      simp [insertAll]
  | cons new news ih =>
      intro index pass
      rw [insertAll, ih, List.length_cons, List.range_succ_eq_map]
      simp [build, Function.comp_def, Nat.add_assoc, Nat.add_comm 1]

/-- One pair leaves one decision. -/
theorem decisions_pair (pass : Pass σ π) (index : Nat) (old new : Node) :
    (if keeps index old new then pass.carry materialize previous index old new
      else pass.build materialize new (.replace index)).decisions =
      pass.decisions ++ [decisionAt (kept keeps previous) index (some old) (some new)] := by
  by_cases keep : keeps index old new
  · have present := previous.isSome_get? old.id
    cases held : previous.get? old.id with
    | none =>
        rw [held, Option.isSome_none] at present
        simp [keep, carry, held, build, decisionAt, kept, ← present]
    | some presented =>
        rw [held, Option.isSome_some] at present
        simp [keep, carry, held, Pass.keep, decisionAt, kept, ← present]
  · simp [keep, build, decisionAt, kept]

/-- **The decisions of a walk**, from `index` on. -/
theorem decisions_align (olds : List Node) :
    ∀ (index : Nat) (news : List Node) (pass : Pass σ π),
      (pass.align materialize previous keeps index olds news).decisions =
        pass.decisions ++ (List.range (max olds.length news.length)).map fun offset =>
          decisionAt (kept keeps previous) (index + offset) olds[offset]? news[offset]? := by
  induction olds with
  | nil =>
      intro index news pass
      rw [align, decisions_insertAll, List.length_nil, Nat.zero_max]
      refine congrArg (pass.decisions ++ ·) (List.map_congr_left fun offset member => ?_)
      rw [List.getElem?_eq_getElem (List.mem_range.mp member)]
      rfl
  | cons old olds ih =>
      intro index news pass
      cases news with
      | nil =>
          rw [align, ih, List.length_nil, Nat.max_zero, Nat.max_zero, List.length_cons,
            List.range_succ_eq_map]
          simp [remove, decisionAt, Function.comp_def, Nat.add_assoc, Nat.add_comm 1]
      | cons new news =>
          rw [align, ih, decisions_pair, List.length_cons, List.length_cons,
            Nat.succ_max_succ, List.range_succ_eq_map]
          simp [Function.comp_def, Nat.add_assoc, Nat.add_comm 1]

end Walk

/-- **A property that every small step keeps**: building a block, keeping one, and noting that one
is gone. -/
structure Invariant (materialize : Materializer σ π) (Holds : Pass σ π → Prop) : Prop where
  build : ∀ {pass : Pass σ π} (node : Node) {decision : Decision}, decision.builds = true →
    Holds pass → Holds (pass.build materialize node decision)
  keep : ∀ {pass : Pass σ π} (index : Nat) (node : Node) (presented : π),
    Holds pass → Holds (pass.keep index node presented)
  remove : ∀ {pass : Pass σ π} (index : Nat), Holds pass → Holds (pass.remove index)

namespace Invariant

variable {materialize : Materializer σ π} {previous : Registry π}
  {keeps : Nat → Node → Node → Bool} {Holds : Pass σ π → Prop}
  (invariant : Invariant materialize Holds)

include invariant

theorem carry {pass : Pass σ π} (index : Nat) (old new : Node) (holds : Holds pass) :
    Holds (pass.carry materialize previous index old new) := by
  unfold Pass.carry
  split
  · exact invariant.keep index new _ holds
  · exact invariant.build new rfl holds

theorem insertAll (news : List Node) :
    ∀ (index : Nat) {pass : Pass σ π}, Holds pass →
      Holds (pass.insertAll materialize index news) := by
  induction news with
  | nil => exact fun index pass holds => holds
  | cons new news ih =>
      exact fun index pass holds => ih (index + 1) (invariant.build new rfl holds)

/-- **The whole walk** keeps it. -/
theorem align (olds : List Node) :
    ∀ (index : Nat) (news : List Node) {pass : Pass σ π}, Holds pass →
      Holds (pass.align materialize previous keeps index olds news) := by
  induction olds with
  | nil => exact fun index news pass holds => invariant.insertAll news index holds
  | cons old olds ih =>
      intro index news pass holds
      cases news with
      | nil => exact ih (index + 1) [] (invariant.remove index holds)
      | cons new news =>
          unfold Pass.align
          apply ih
          split
          · exact invariant.carry index old new holds
          · exact invariant.build new rfl holds

end Invariant

/-- The walk has counted what it built. -/
def Counts (pass : Pass σ π) : Prop :=
  pass.created = pass.decisions.countP (·.builds)

theorem counts_invariant (materialize : Materializer σ π) : Invariant materialize Counts where
  build {pass} node decision builds counts := by
    have before : pass.created = pass.decisions.countP (·.builds) := counts
    simp [Counts, Pass.build, before, builds]
  keep {pass} index node presented counts := by
    have before : pass.created = pass.decisions.countP (·.builds) := counts
    simp [Counts, Pass.keep, before, Decision.builds]
  remove {pass} index counts := by
    have before : pass.created = pass.decisions.countP (·.builds) := counts
    simp [Counts, Pass.remove, before, Decision.builds]

end Pass

/-! ## The decisions of a reconciliation -/

section Reconciliation

variable (materialize : Materializer σ π) (current : Option Document) (new : Document)
  (registry : Registry π) (state : σ)

/-- Old blocks take part only if there is an old version. -/
theorem mem_partners {strategy : Strategy} {current : Option Document} {old : Node}
    (member : old ∈ partners strategy current) :
    ∃ document, current = some document ∧ old ∈ document.blocks := by
  cases current with
  | none => simp [partners_none] at member
  | some document =>
      refine ⟨document, rfl, ?_⟩
      cases strategy with
      | rebuild => simp [partners] at member
      | positional => exact member
      | safeBoundary boundary => exact member

/-- A block of the new version has a partner that may be kept for it. -/
def MayKeep (current : Option Document) (new : Document) (index : Nat) (node : Node) : Prop :=
  ∃ old, (partners (strategyFor current new) current)[index]? = some old ∧
    keeps (strategyFor current new) index old node = true

/-- **What a reconciliation decides.**  One decision for each index of the longer version. -/
theorem decisions_reconcile :
    (reconcile materialize current new registry state).1.decisions =
      decisions (kept (keeps (strategyFor current new)) registry)
        (partners (strategyFor current new) current) new.blocks := by
  rw [reconcile_eq_align, Pass.finish, Pass.decisions_align]
  simp [decisions]

/-- What a reconciliation builds is what it decides to build. -/
theorem created_reconcile :
    (reconcile materialize current new registry state).1.created =
      (reconcile materialize current new registry state).1.decisions.countP (·.builds) := by
  rw [reconcile_eq_align]
  have start : Pass.Counts ({ state } : Pass σ π) := rfl
  exact (Pass.counts_invariant materialize).align _ 0 _ start

/-- A registry that holds all old blocks has no say in the decisions: a pair that may keep what was
built does keep it. -/
theorem decisions_reconcile_of_held
    (held : ∀ old ∈ partners (strategyFor current new) current,
      registry.contains old.id = true) :
    (reconcile materialize current new registry state).1.decisions =
      decisions (keeps (strategyFor current new)) (partners (strategyFor current new) current)
        new.blocks := by
  rw [decisions_reconcile]
  refine decisions_congr fun index old member new _ => ?_
  rw [kept, held old member, Bool.and_true]

end Reconciliation

/-! ## Decisions without a comparison -/

section Shape

variable {olds news : List Node}

/-- Where all pairs are kept and none lacks a partner, nothing else happens. -/
theorem decisions_eq_map_reuse {kept : Nat → Node → Node → Bool}
    (length : olds.length = news.length)
    (all : ∀ {index : Nat} {old new : Node}, olds[index]? = some old → news[index]? = some new →
      kept index old new = true) :
    decisions kept olds news = (List.range news.length).map .reuse := by
  rw [decisions, length, Nat.max_self]
  refine List.map_congr_left fun index member => ?_
  have inNew : index < news.length := List.mem_range.mp member
  have old := List.getElem?_eq_getElem (length ▸ inNew)
  have new := List.getElem?_eq_getElem inNew
  rw [old, new, decisionAt, if_pos (all old new)]

/-- The indices up to a bound, cut in two. -/
theorem range_eq_append {start stop : Nat} (le : start ≤ stop) :
    List.range stop = List.range start ++ List.range' start (stop - start) := by
  have joined := @List.range'_append_1 0 start (stop - start)
  rw [Nat.zero_add, Nat.add_sub_of_le le] at joined
  rw [List.range_eq_range', List.range_eq_range', joined]

/-- The indices of the longer of two lists, cut at a boundary and at the ends of both. -/
theorem range_max_eq_append {boundary before after : Nat} (inBefore : boundary ≤ before)
    (inAfter : boundary ≤ after) :
    List.range (max before after) =
      List.range boundary ++ List.range' boundary (min before after - boundary) ++
      List.range' before (after - before) ++ List.range' after (before - after) := by
  rw [← range_eq_append (Nat.le_min.mpr ⟨inBefore, inAfter⟩)]
  rcases Nat.le_total before after with le | le
  · rw [Nat.max_eq_right le, Nat.min_eq_left le, Nat.sub_eq_zero_of_le le, List.range'_zero,
      List.append_nil, ← range_eq_append le]
  · rw [Nat.max_eq_left le, Nat.min_eq_right le, Nat.sub_eq_zero_of_le le, List.range'_zero,
      List.append_nil, ← range_eq_append le]

/-- **The decisions at a boundary.**  The pairs before it are kept, those behind it are replaced,
and what is left of the longer version is inserted or removed. -/
theorem decisions_boundary {boundary : Nat} (inOlds : boundary ≤ olds.length)
    (inNews : boundary ≤ news.length) :
    decisions (fun index _ _ => index < boundary) olds news =
      (List.range boundary).map .reuse ++
      (List.range' boundary (min olds.length news.length - boundary)).map .replace ++
      (List.range' olds.length (news.length - olds.length)).map .insert ++
      (List.range' news.length (olds.length - news.length)).map .remove := by
  have kept : ∀ index ∈ List.range boundary,
      decisionAt (fun index _ _ => index < boundary) index olds[index]? news[index]? =
        .reuse index := by
    intro index member
    have below : index < boundary := List.mem_range.mp member
    rw [List.getElem?_eq_getElem (Nat.lt_of_lt_of_le below inOlds),
      List.getElem?_eq_getElem (Nat.lt_of_lt_of_le below inNews)]
    simp [decisionAt, below]
  have replaced : ∀ index ∈ List.range' boundary (min olds.length news.length - boundary),
      decisionAt (fun index _ _ => index < boundary) index olds[index]? news[index]? =
        .replace index := by
    intro index member
    obtain ⟨above, below⟩ := List.mem_range'_1.mp member
    rw [List.getElem?_eq_getElem (by omega), List.getElem?_eq_getElem (by omega)]
    simp [decisionAt, Nat.not_lt.mpr above]
  have inserted : ∀ index ∈ List.range' olds.length (news.length - olds.length),
      decisionAt (fun index _ _ => index < boundary) index olds[index]? news[index]? =
        .insert index := by
    intro index member
    obtain ⟨above, below⟩ := List.mem_range'_1.mp member
    rw [List.getElem?_eq_none above, List.getElem?_eq_getElem (by omega), decisionAt]
  have removed : ∀ index ∈ List.range' news.length (olds.length - news.length),
      decisionAt (fun index _ _ => index < boundary) index olds[index]? news[index]? =
        .remove index := by
    intro index member
    obtain ⟨above, below⟩ := List.mem_range'_1.mp member
    rw [List.getElem?_eq_none above, List.getElem?_eq_getElem (by omega), decisionAt]
  rw [decisions, range_max_eq_append inOlds inNews, List.map_append, List.map_append,
    List.map_append, List.map_congr_left kept, List.map_congr_left replaced,
    List.map_congr_left inserted, List.map_congr_left removed]

/-- At a boundary, everything behind it is built. -/
theorem countP_builds_decisions_boundary {boundary : Nat} (inOlds : boundary ≤ olds.length)
    (inNews : boundary ≤ news.length) :
    (decisions (fun index _ _ => index < boundary) olds news).countP (·.builds) =
      news.length - boundary := by
  rw [decisions_boundary inOlds inNews]
  simp only [Decision.builds, List.countP_append, List.countP_map, Function.comp_def,
    List.countP_false, Function.const_apply, List.countP_true, List.length_range', Nat.add_zero,
    Nat.zero_add]
  omega

end Shape

end Reconcile

end MarkdownPager
