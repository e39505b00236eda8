import MarkdownPager.Proofs.Decisions
import MarkdownPager.Proofs.SafeBoundary

/-!
# Reuse by content

A new text that does not go on behind the old one is compared with it, block by block.  All pairs
share one walk, one materializer and one registry, and the comparison looks at kinds before it looks
at fingerprints.  None of this matters to a pair: what happens to it can be told from its two blocks
and from what the registry holds for the old one.

* `Node.kind_eq_of_fingerprint_eq` — a fingerprint begins with a letter for the kind of its block,
  so comparing kinds as well changes nothing (`sameContent_eq`).
* `getElem?_nodes_reconcile` — what is offered to a block is shown for it.  Unlike a covering this
  does not ask for distinct identities.
* `KeptByContent`, `Reconciliation.DecidesByContent` — what is kept at an index, and what else can
  happen there.
* `positional_reuse_exact` — the result of a comparison, index by index.
-/

namespace MarkdownPager

universe u v

variable {σ : Type u} {π : Type v}

/-! ## Kinds -/

/-- The letter that fingerprints of blocks of a kind begin with. -/
def BlockKind.letter : BlockKind → Char
  | .paragraph => 'P'
  | .heading => 'H'
  | .code => 'C'
  | .list => 'L'
  | .quote => 'Q'
  | .rule => 'T'
  | .raw => 'O'

theorem BlockKind.letter_injective : Function.Injective BlockKind.letter := by
  intro left right
  cases left <;> cases right <;> decide

theorem Fingerprint.head?_ofBlock (block : Block) :
    (ofBlock block).head? = some block.kind.letter := by
  cases block with
  | list ordered start items => cases ordered <;> simp [ofBlock, Block.kind, BlockKind.letter]
  | _ => simp [ofBlock, Block.kind, BlockKind.letter]

/-- **Equal fingerprints mean equal kinds.** -/
theorem Node.kind_eq_of_fingerprint_eq {left right : Node}
    (same : left.fingerprint = right.fingerprint) : left.block.kind = right.block.kind := by
  apply BlockKind.letter_injective
  have codes : Fingerprint.ofBlock left.block = Fingerprint.ofBlock right.block := by
    rw [Node.fingerprint, Node.fingerprint, Fingerprint.mk.injEq] at same
    exact String.ofList_injective same
  rw [← Option.some.injEq, ← Fingerprint.head?_ofBlock, ← Fingerprint.head?_ofBlock, codes]

namespace Reconcile

/-- **The comparison of kinds has no say.** -/
theorem sameContent_eq :
    sameContent = fun old new => old.fingerprint == new.fingerprint := by
  funext old new
  by_cases same : old.fingerprint = new.fingerprint
  · simp [sameContent, same, Node.kind_eq_of_fingerprint_eq same]
  · simp [sameContent, same]

/-! ## What is offered is shown -/

namespace Pass

section Walk

variable (materialize : Materializer σ π) (previous : Registry π)
  (keeps : Nat → Node → Node → Bool)

theorem exists_nodes_insertAll (news : List Node) :
    ∀ (index : Nat) (pass : Pass σ π),
      ∃ shown, (pass.insertAll materialize index news).nodes = pass.nodes ++ shown := by
  induction news with
  | nil => exact fun index pass => ⟨[], (List.append_nil _).symm⟩
  | cons new news ih =>
      intro index pass
      obtain ⟨shown, rest⟩ := ih (index + 1) (pass.build materialize new (.insert index))
      refine ⟨(materialize new pass.state).1 :: shown, ?_⟩
      rw [insertAll, rest]
      simp [build]

/-- One pair shows one thing: what the registry holds for the old block, if the pair may keep it. -/
theorem exists_nodes_pair (pass : Pass σ π) (index : Nat) (old new : Node) :
    ∃ presented,
      (if keeps index old new then pass.carry materialize previous index old new
        else pass.build materialize new (.replace index)).nodes = pass.nodes ++ [presented] ∧
      ∀ held, keeps index old new = true → previous.get? old.id = some held → held = presented := by
  by_cases keep : keeps index old new
  · rw [if_pos keep, carry]
    cases present : previous.get? old.id with
    | none =>
        refine ⟨_, rfl, fun held _ same => ?_⟩
        cases same
    | some presented => exact ⟨presented, rfl, fun held _ same => (Option.some.inj same).symm⟩
  · rw [if_neg keep]
    exact ⟨_, rfl, fun held kept => absurd kept keep⟩

/-- **What a walk shows**, from `index` on. -/
theorem exists_nodes_align (olds : List Node) :
    ∀ (index : Nat) (news : List Node) (pass : Pass σ π),
      ∃ shown, (pass.align materialize previous keeps index olds news).nodes = pass.nodes ++ shown ∧
        ∀ offset old new held, olds[offset]? = some old → news[offset]? = some new →
          keeps (index + offset) old new = true → previous.get? old.id = some held →
          shown[offset]? = some held := by
  induction olds with
  | nil =>
      intro index news pass
      obtain ⟨shown, nodes⟩ := exists_nodes_insertAll materialize news index pass
      exact ⟨shown, nodes, fun offset old new held present => nomatch present⟩
  | cons old olds ih =>
      intro index news pass
      cases news with
      | nil =>
          obtain ⟨shown, nodes, -⟩ := ih (index + 1) [] (pass.remove index)
          exact ⟨shown, nodes, fun offset old new held _ present => nomatch present⟩
      | cons new news =>
          obtain ⟨presented, pair, first⟩ :=
            exists_nodes_pair materialize previous keeps pass index old new
          obtain ⟨shown, nodes, later⟩ := ih (index + 1) news _
          refine ⟨presented :: shown, ?_, fun offset before after held inOlds inNews => ?_⟩
          · rw [align, nodes, pair, List.append_assoc, List.singleton_append]
          · cases offset with
            | zero =>
                obtain rfl := Option.some.inj inOlds
                obtain rfl := Option.some.inj inNews
                exact fun keep present => congrArg some (first held keep present).symm
            | succ offset =>
                have shifted : index + (offset + 1) = index + 1 + offset := by omega
                rw [shifted]
                exact later offset before after held inOlds inNews

end Walk

end Pass

/-- **What is offered is shown**, whatever the identities of the new blocks are. -/
theorem getElem?_nodes_reconcile (materialize : Materializer σ π) {current : Option Document}
    {new : Document} {registry : Registry π} (state : σ) {index : Nat} {node : Node}
    {presented : π} (present : new.blocks[index]? = some node)
    (offered : offer? current new registry index node = some presented) :
    (reconcile materialize current new registry state).1.nodes[index]? = some presented := by
  obtain ⟨shown, nodes, offers⟩ := Pass.exists_nodes_align materialize registry
    (keeps (strategyFor current new)) (partners (strategyFor current new) current) 0 new.blocks
    { state }
  unfold offer? Pass.offer? at offered
  cases partner : (partners (strategyFor current new) current)[index]? with
  | none => simp [partner] at offered
  | some old =>
      simp only [partner, Option.ite_none_right_eq_some] at offered
      rw [← Nat.zero_add index] at offered
      rw [reconcile_eq_align]
      show (Pass.align ..).nodes[index]? = _
      rw [nodes]
      exact offers index old node presented partner present offered.1 offered.2

/-! ## Decisions at an index -/

section Decisions

variable {kept : Nat → Node → Node → Bool} {olds news : List Node} {index : Nat}

theorem length_decisions (kept : Nat → Node → Node → Bool) (olds news : List Node) :
    (decisions kept olds news).length = max olds.length news.length := by
  rw [decisions, List.length_map, List.length_range]

/-- There is a decision at an index as long as one of the versions has a block there. -/
theorem getElem?_decisions :
    (decisions kept olds news)[index]? =
      if olds[index]?.isSome || news[index]?.isSome then
        some (decisionAt kept index olds[index]? news[index]?)
      else none := by
  rw [decisions, List.getElem?_map]
  by_cases inside : index < max olds.length news.length
  · have present : olds[index]?.isSome || news[index]?.isSome := by
      rw [Bool.or_eq_true, isSome_getElem?, isSome_getElem?]
      omega
    rw [List.getElem?_range inside, if_pos present, Option.map_some]
  · have absent : ¬ (olds[index]?.isSome || news[index]?.isSome) = true := by
      rw [Bool.or_eq_true, isSome_getElem?, isSome_getElem?]
      omega
    rw [List.getElem?_eq_none (by simpa using inside), if_neg absent, Option.map_none]

theorem getElem?_decisions_eq_reuse_iff :
    (decisions kept olds news)[index]? = some (.reuse index) ↔
      ∃ old new, olds[index]? = some old ∧ news[index]? = some new ∧
        kept index old new = true := by
  rw [getElem?_decisions]
  cases olds[index]? <;> cases news[index]? <;> simp [decisionAt]

theorem getElem?_decisions_eq_replace_iff :
    (decisions kept olds news)[index]? = some (.replace index) ↔
      ∃ old new, olds[index]? = some old ∧ news[index]? = some new ∧
        kept index old new = false := by
  rw [getElem?_decisions]
  cases olds[index]? <;> cases news[index]? <;> simp [decisionAt]

theorem getElem?_decisions_eq_insert_iff :
    (decisions kept olds news)[index]? = some (.insert index) ↔
      olds.length ≤ index ∧ index < news.length := by
  have present : index < news.length ↔ news[index]?.isSome = true := by rw [isSome_getElem?]
  rw [getElem?_decisions, ← List.getElem?_eq_none_iff, present]
  cases olds[index]? <;> cases news[index]? <;> simp [decisionAt, ite_eq_iff]

theorem getElem?_decisions_eq_remove_iff :
    (decisions kept olds news)[index]? = some (.remove index) ↔
      news.length ≤ index ∧ index < olds.length := by
  have present : index < olds.length ↔ olds[index]?.isSome = true := by rw [isSome_getElem?]
  rw [getElem?_decisions, ← List.getElem?_eq_none_iff, present]
  cases olds[index]? <;> cases news[index]? <;> simp [decisionAt, ite_eq_iff]

end Decisions

/-! ## Comparing block by block -/

/-- **What a comparison keeps at an index.**  Both versions have a block there, the fingerprints
agree, and the registry holds `presented` for the old block. -/
def KeptByContent (old new : Document) (registry : Registry π) (index : Nat) (presented : π) :
    Prop :=
  ∃ before after, old.blocks[index]? = some before ∧ new.blocks[index]? = some after ∧
    before.fingerprint = after.fingerprint ∧ registry.get? before.id = some presented

end Reconcile

/-- **What a comparison does at an index.** -/
structure Reconciliation.DecidesByContent (result : Reconciliation π) (old new : Document)
    (registry : Registry π) (index : Nat) : Prop where
  reuse : result.decisions[index]? = some (.reuse index) ↔
    ∃ presented, Reconcile.KeptByContent old new registry index presented
  /-- What is kept is the very thing that the registry holds. -/
  shown : ∀ presented, Reconcile.KeptByContent old new registry index presented →
    result.nodes[index]? = some presented
  replace : result.decisions[index]? = some (.replace index) ↔
    index < old.blocks.length ∧ index < new.blocks.length ∧
      ¬ ∃ presented, Reconcile.KeptByContent old new registry index presented
  insert : result.decisions[index]? = some (.insert index) ↔
    old.blocks.length ≤ index ∧ index < new.blocks.length
  remove : result.decisions[index]? = some (.remove index) ↔
    new.blocks.length ≤ index ∧ index < old.blocks.length

namespace Reconcile

theorem kept_eq_true_iff {registry : Registry π} {index : Nat} {before after : Node} :
    kept (fun _ => sameContent) registry index before after = true ↔
      before.fingerprint = after.fingerprint ∧
        ∃ presented, registry.get? before.id = some presented := by
  rw [kept, sameContent_eq, Bool.and_eq_true, beq_iff_eq, ← registry.isSome_get?,
    Option.isSome_iff_exists]

section Comparison

variable (materialize : Materializer σ π) {old new : Document} (registry : Registry π) (state : σ)

theorem decisions_of_positional (positional : strategyFor (some old) new = .positional) :
    (reconcile materialize (some old) new registry state).1.decisions =
      decisions (kept (fun _ => sameContent) registry) old.blocks new.blocks := by
  rw [decisions_reconcile, positional, keeps_positional]
  rfl

/-- A pair is kept just when the walk keeps it. -/
theorem exists_keptByContent_iff {registry : Registry π} {index : Nat} {before after : Node}
    (inOld : old.blocks[index]? = some before) (inNew : new.blocks[index]? = some after) :
    (∃ presented, KeptByContent old new registry index presented) ↔
      kept (fun _ => sameContent) registry index before after = true := by
  rw [kept_eq_true_iff]
  constructor
  · rintro ⟨presented, before', after', present, present', same, held⟩
    obtain rfl := Option.some.inj (inOld.symm.trans present)
    obtain rfl := Option.some.inj (inNew.symm.trans present')
    exact ⟨same, presented, held⟩
  · rintro ⟨same, presented, held⟩
    exact ⟨presented, before, after, inOld, inNew, same, held⟩

/-- **One index of a comparison.** -/
theorem decidesByContent (positional : strategyFor (some old) new = .positional) (index : Nat) :
    (reconcile materialize (some old) new registry state).1.DecidesByContent old new registry
      index := by
  have decided := decisions_of_positional materialize registry state positional
  refine ⟨?_, ?_, ?_, ?_, ?_⟩
  · rw [decided, getElem?_decisions_eq_reuse_iff]
    constructor
    · rintro ⟨before, after, inOld, inNew, keeps⟩
      exact (exists_keptByContent_iff inOld inNew).mpr keeps
    · rintro ⟨presented, before, after, inOld, inNew, same, held⟩
      exact ⟨before, after, inOld, inNew, kept_eq_true_iff.mpr ⟨same, presented, held⟩⟩
  · rintro presented ⟨before, after, inOld, inNew, same, held⟩
    refine getElem?_nodes_reconcile materialize state inNew ?_
    have partner : (partners .positional (some old))[index]? = some before := inOld
    simp [offer?, Pass.offer?, positional, partner, keeps_positional, sameContent_eq, same, held]
  · rw [decided, getElem?_decisions_eq_replace_iff]
    constructor
    · rintro ⟨before, after, inOld, inNew, refused⟩
      refine ⟨(List.getElem?_eq_some_iff.mp inOld).1, (List.getElem?_eq_some_iff.mp inNew).1, ?_⟩
      rw [exists_keptByContent_iff inOld inNew, refused]
      exact Bool.false_ne_true
    · rintro ⟨inOld, inNew, refused⟩
      have before := List.getElem?_eq_getElem inOld
      have after := List.getElem?_eq_getElem inNew
      rw [exists_keptByContent_iff before after] at refused
      exact ⟨_, _, before, after, Bool.eq_false_iff.mpr refused⟩
  · rw [decided, getElem?_decisions_eq_insert_iff]
  · rw [decided, getElem?_decisions_eq_remove_iff]

/-- **A pair is decided on its own.**  Two comparisons, with different versions and registries,
decide alike at an index if they have the same blocks there and their registries agree on whether
they hold anything for the old one. -/
theorem decisions_local {old' new' : Document} {registry' : Registry π} {state' : σ} {index : Nat}
    (positional : strategyFor (some old) new = .positional)
    (positional' : strategyFor (some old') new' = .positional)
    (sameOld : old'.blocks[index]? = old.blocks[index]?)
    (sameNew : new'.blocks[index]? = new.blocks[index]?)
    (sameHeld : ∀ before ∈ old.blocks[index]?,
      registry'.contains before.id = registry.contains before.id) :
    (reconcile materialize (some old') new' registry' state').1.decisions[index]? =
      (reconcile materialize (some old) new registry state).1.decisions[index]? := by
  rw [decisions_of_positional materialize registry state positional,
    decisions_of_positional materialize registry' state' positional', getElem?_decisions,
    getElem?_decisions, sameOld, sameNew]
  cases inOld : old.blocks[index]? with
  | none => cases new.blocks[index]? <;> rfl
  | some before =>
      have held := sameHeld before inOld
      cases new.blocks[index]? with
      | none => rfl
      | some after => simp [decisionAt, kept, held]

/-- **Reuse by content is exact.**  Take an old version with a block and a new text that does not go
on behind the old one.  At each index there is one decision: to reuse what the registry holds when
both blocks are there, have one fingerprint, and the registry holds something for the old one; to
replace it when both are there and this is not so; to insert or to remove a block without a partner.
The result is that of a comparison by fingerprints alone, and a decision depends on nothing at any
other index. -/
theorem positional_reuse_exact (nonempty : old.blocks ≠ [])
    (differs : ¬ StrictlyExtends old.source new.source) :
    let result := (reconcile materialize (some old) new registry state).1
    result.decisions.length = max old.blocks.length new.blocks.length ∧
    (∀ index, result.DecidesByContent old new registry index) ∧
    (∀ before after : Node, before.fingerprint = after.fingerprint →
      before.block.kind = after.block.kind) ∧
    reconcile materialize (some old) new registry state =
      (Pass.align materialize registry (fun _ before after => before.fingerprint == after.fingerprint)
        0 old.blocks new.blocks { state }).finish .positional ∧
    ∀ (old' new' : Document) (registry' : Registry π) (state' : σ) (index : Nat),
      old'.blocks ≠ [] → ¬ StrictlyExtends old'.source new'.source →
      old'.blocks[index]? = old.blocks[index]? → new'.blocks[index]? = new.blocks[index]? →
      (∀ before ∈ old.blocks[index]?,
        registry'.contains before.id = registry.contains before.id) →
      (reconcile materialize (some old') new' registry' state').1.decisions[index]? =
        result.decisions[index]? := by
  intro result
  have positional : strategyFor (some old) new = .positional :=
    strategyFor_eq_positional_iff.mpr ⟨old, rfl, nonempty, differs⟩
  refine ⟨?_, decidesByContent materialize registry state positional,
    fun before after => Node.kind_eq_of_fingerprint_eq, ?_, ?_⟩
  · show (reconcile ..).1.decisions.length = _
    rw [decisions_of_positional materialize registry state positional, length_decisions]
  · rw [reconcile_eq_align, positional, keeps_positional, sameContent_eq]
    rfl
  · intro old' new' registry' state' index nonempty' differs' sameOld sameNew sameHeld
    have positional' : strategyFor (some old') new' = .positional :=
      strategyFor_eq_positional_iff.mpr ⟨old', rfl, nonempty', differs'⟩
    exact decisions_local materialize registry state positional positional' sameOld sameNew sameHeld

end Comparison

/-- Four paragraphs. -/
def fourParagraphs : Document where
  source := "a\n\nb\n\nc\n\nd"
  blocks :=
    [⟨⟨1⟩, ⟨0, 1⟩, .paragraph [.text "a"]⟩, ⟨⟨2⟩, ⟨3, 4⟩, .paragraph [.text "b"]⟩,
      ⟨⟨3⟩, ⟨6, 7⟩, .paragraph [.text "c"]⟩, ⟨⟨4⟩, ⟨9, 10⟩, .paragraph [.text "d"]⟩]

/-- The first two paragraphs again, and a heading with the text of the third. -/
def twoParagraphsAndHeading : Document where
  source := "a\n\nb\n\n# c"
  blocks :=
    [⟨⟨5⟩, ⟨0, 1⟩, .paragraph [.text "a"]⟩, ⟨⟨6⟩, ⟨3, 4⟩, .paragraph [.text "b"]⟩,
      ⟨⟨7⟩, ⟨6, 9⟩, .heading 1 [.text "c"]⟩]

/-- The first paragraph is reused, the second one is missing in the registry, the third has another
kind now, and the fourth is gone. -/
theorem positional_reuse_exact_fourParagraphs :
    let registry : Registry Nat := (Registry.empty.insert ⟨1⟩ 10).insert ⟨3⟩ 30
    let result := (reconcile (fun node state => (node.id.val, state)) (some fourParagraphs)
      twoParagraphsAndHeading registry ()).1
    fourParagraphs.blocks ≠ [] ∧
      ¬ StrictlyExtends fourParagraphs.source twoParagraphsAndHeading.source ∧
      result.decisions.length = 4 ∧ result.decisions[0]? = some (.reuse 0) ∧
      result.nodes[0]? = some 10 ∧ result.decisions[1]? = some (.replace 1) ∧
      result.decisions[2]? = some (.replace 2) ∧ result.decisions[3]? = some (.remove 3) := by
  intro registry result
  have nonempty : fourParagraphs.blocks ≠ [] := List.cons_ne_nil _ _
  have differs : ¬ StrictlyExtends fourParagraphs.source twoParagraphsAndHeading.source :=
    mt strictlyExtends_iff.mpr (by decide +kernel)
  obtain ⟨length, decides, -⟩ := positional_reuse_exact
    (fun node state => (node.id.val, state)) registry () nonempty differs
  have first : KeptByContent fourParagraphs twoParagraphsAndHeading registry 0 10 :=
    ⟨_, _, rfl, rfl, rfl, rfl⟩
  have second : ¬ ∃ presented,
      KeptByContent fourParagraphs twoParagraphsAndHeading registry 1 presented := by
    rintro ⟨presented, _, _, ⟨⟩, _, _, held⟩
    cases held
  have third : ¬ ∃ presented,
      KeptByContent fourParagraphs twoParagraphsAndHeading registry 2 presented := by
    rintro ⟨presented, _, _, ⟨⟩, ⟨⟩, same, -⟩
    cases Node.kind_eq_of_fingerprint_eq same
  exact ⟨nonempty, differs, length, (decides 0).reuse.mpr ⟨10, first⟩, (decides 0).shown 10 first,
    (decides 1).replace.mpr ⟨by decide, by decide, second⟩,
    (decides 2).replace.mpr ⟨by decide, by decide, third⟩,
    (decides 3).remove.mpr ⟨by decide, by decide⟩⟩

end Reconcile

end MarkdownPager
