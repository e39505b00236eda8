import MarkdownPager.Markdown.Outline
import MarkdownPager.Proofs.Forest

/-!
# Running text opens nothing but markup

Whatever running text is read as, the trees at its top are leaves or markup: emphasis, links and
images.  This is what lets the running text of a tight list stand in an item beside blocks.

The two readers of running text keep what they have read in the same way: what stands behind the
innermost open bracket or run, and what stands before each of the open ones.  An invariant says that
all of it is markup, and each step of the readers keeps it.

* `Emphasis.State.isMarkup_foldl` — a run of the reader of emphasis.
* `Reading.isMarkup_readAll` — a run of the reader of brackets.
* `areMarkup_treesOfPieces` — both, one behind the other.
-/

namespace MarkdownPager.Markdown

namespace Tree

/-- Whether a tree is a leaf or markup. -/
def isMarkup : Tree → Bool
  | .leaf .. => true
  | .node tag _ _ => tag.isInline

/-- Markup has the shape, whatever stands in it. -/
theorem isShaped_of_isMarkup {tree : Tree} (markup : tree.isMarkup = true) :
    tree.isShaped = true := by
  cases tree with
  | leaf content span => rfl
  | node tag span children =>
      cases tag <;> first | rfl | exact absurd markup Bool.false_ne_true

end Tree

/-- Whether the trees of a forest are leaves or markup. -/
def AreMarkup (forest : List Tree) : Prop := ∀ tree ∈ forest, tree.isMarkup = true

namespace Emphasis

theorem areMarkup_behind {done : List Tree} (markup : AreMarkup done) (marks : List Mark) :
    AreMarkup (behind done marks) := by
  unfold behind
  refine List.forall_mem_append.mpr ⟨fun tree member => ?_, markup⟩
  obtain ⟨mark, -, rfl⟩ := List.mem_map.mp (List.mem_reverse.mp member)
  rfl

/-- Whether all that was read before the open runs is markup. -/
def AreMarkupBefore (openers : List Opener) : Prop :=
  ∀ opener ∈ openers, AreMarkup opener.before

theorem areMarkup_giveUp {openers : List Opener} :
    ∀ {done : List Tree}, AreMarkup done → AreMarkupBefore openers →
      AreMarkup (giveUp done openers) := by
  induction openers with
  | nil => exact fun markup _ => markup
  | cons opener outer ih =>
      intro done markup before
      have first := areMarkup_behind (before opener List.mem_cons_self) opener.marks
      have rest : AreMarkupBefore outer := fun other later =>
        before other (List.mem_cons_of_mem _ later)
      exact ih (List.forall_mem_append.mpr ⟨markup, first⟩) rest

/-- What is enclosed in marks is emphasis, and what is not is left as it is. -/
theorem areMarkup_enclose (char : Char) {forest : List Tree} (opening closing : List Mark)
    (markup : AreMarkup forest) : AreMarkup (enclose char forest opening closing) := by
  fun_induction enclose char forest opening closing with
  | case1 forest outer first opening inner last closing tag ih =>
      apply ih
      intro tree member
      obtain rfl := List.mem_singleton.mp member
      by_cases tilde : char == '~' <;> simp [Tree.isMarkup, tag, tilde, Tag.isInline]
  | case2 forest opening closing tag =>
      intro tree member
      obtain rfl := List.mem_singleton.mp member
      by_cases tilde : char == '~' <;> simp [Tree.isMarkup, tag, tilde, Tag.isInline]
  | case3 => exact markup

/-- Whether all that was read is markup. -/
structure State.IsMarkup (state : State) : Prop where
  done : AreMarkup state.done
  before : AreMarkupBefore state.openers

theorem State.IsMarkup.push {state : State} (markup : state.IsMarkup) {tree : Tree}
    (kind : tree.isMarkup = true) : (state.push tree).IsMarkup where
  done := List.forall_mem_cons.mpr ⟨kind, markup.done⟩
  before := markup.before

theorem isMarkup_close (run : Run) (fuel : Nat) :
    ∀ (marks : List Mark) (state : State), state.IsMarkup →
      (close run fuel marks state).2.IsMarkup := by
  induction fuel with
  | zero => exact fun marks state markup => markup
  | succ fuel ih =>
      intro marks state markup
      rw [close]
      split
      · exact markup
      · dsimp only
        split
        · split
          · exact ⟨markup.done, markup.before⟩
          · exact markup
        · rename_i index found
          split
          · exact markup
          · rename_i opener outer behind
            -- The openers in between are given up, and their partner stays or goes.
            have within : ∀ other ∈ opener :: outer, other ∈ state.openers := fun other member =>
              List.mem_of_mem_drop (behind ▸ member)
            have inner : AreMarkup (giveUp state.done (state.openers.take index)).reverse := by
              intro tree member
              refine areMarkup_giveUp markup.done (fun other early => ?_) tree
                (List.mem_reverse.mp member)
              exact markup.before other (List.mem_of_mem_take early)
            have first := markup.before opener (within opener List.mem_cons_self)
            have rest : AreMarkupBefore outer := fun other later =>
              markup.before other (within other (List.mem_cons_of_mem _ later))
            apply ih
            split
            · refine ⟨List.forall_mem_append.mpr ⟨?_, first⟩, rest⟩
              exact areMarkup_enclose run.char _ _ inner
            · refine ⟨?_, List.forall_mem_cons.mpr ⟨first, rest⟩⟩
              exact areMarkup_enclose run.char _ _ inner

theorem isMarkup_readRun (run : Run) {state : State} (markup : state.IsMarkup) :
    (readRun run state).IsMarkup := by
  have closed : (if run.canClose then close run run.marks.length run.marks state
      else (run.marks, state)).2.IsMarkup := by
    split
    · exact isMarkup_close run _ _ state markup
    · exact markup
  rw [readRun]
  generalize (if run.canClose then close run run.marks.length run.marks state
    else (run.marks, state)) = left at closed ⊢
  obtain ⟨marks, rest⟩ := left
  dsimp only at closed ⊢
  split
  · exact closed
  · split
    · exact ⟨nofun, List.forall_mem_cons.mpr ⟨closed.done, closed.before⟩⟩
    · exact ⟨areMarkup_behind closed.done _, closed.before⟩

end Emphasis

namespace Strand

/-- Whether a strand is markup as far as it is a tree. -/
def isMarkup : Strand → Bool
  | .tree inside => inside.isMarkup
  | .run _ | .escapedBreak _ => true

end Strand

/-- Whether all strands are markup. -/
def AreMarkupStrands (strands : List Strand) : Prop := ∀ strand ∈ strands, strand.isMarkup = true

namespace Emphasis

/-- One strand more. -/
theorem State.IsMarkup.read {state : State} (markup : state.IsMarkup) {strand : Strand}
    (kind : strand.isMarkup = true) : (Emphasis.read state strand).IsMarkup := by
  cases strand with
  | tree tree => exact markup.push kind
  | run run => exact isMarkup_readRun run markup
  | escapedBreak span => exact markup.push rfl

/-- **All strands.** -/
theorem State.isMarkup_foldl {strands : List Strand} : ∀ {state : State}, state.IsMarkup →
    AreMarkupStrands strands → (strands.foldl Emphasis.read state).IsMarkup := by
  induction strands with
  | nil => exact fun markup _ => markup
  | cons strand rest ih =>
      intro state markup kinds
      rw [AreMarkupStrands, List.forall_mem_cons] at kinds
      exact ih (markup.read kinds.1) kinds.2

end Emphasis

theorem Strand.areMarkup_showFinalBackslash {strands : List Strand}
    (kinds : AreMarkupStrands strands) : AreMarkupStrands (showFinalBackslash strands) := by
  rw [showFinalBackslash.eq_def]
  split
  · split
    · refine List.forall_mem_append.mpr ⟨fun strand member => ?_, by simp [isMarkup, Tree.isMarkup]⟩
      exact kinds strand (List.dropLast_subset strands member)
    · exact kinds
  · exact kinds

/-- The trees of strands that are markup are markup. -/
theorem Strand.areMarkup_trees {strands : List Strand} (kinds : AreMarkupStrands strands) :
    AreMarkup (Strand.trees strands) := by
  have start : Emphasis.State.IsMarkup ⟨[], [], 0⟩ := ⟨nofun, nofun⟩
  have read := Emphasis.State.isMarkup_foldl start (areMarkup_showFinalBackslash kinds)
  intro tree member
  exact Emphasis.areMarkup_giveUp read.done read.before tree (List.mem_reverse.mp member)

namespace Reading

/-- Whether all that was read is markup. -/
structure IsMarkup (reading : Reading) : Prop where
  done : AreMarkupStrands reading.done
  before : ∀ opener ∈ reading.openers, AreMarkupStrands opener.before

variable {reading : Reading}

theorem isMarkup_start (budget : Nat) : (start budget).IsMarkup := ⟨nofun, nofun⟩

theorem IsMarkup.push (markup : reading.IsMarkup) {strand : Strand}
    (kind : strand.isMarkup = true) : (reading.push strand).IsMarkup where
  done := List.forall_mem_cons.mpr ⟨kind, markup.done⟩
  before := markup.before

theorem IsMarkup.text (markup : reading.IsMarkup) (piece : Piece) :
    (reading.text piece).IsMarkup :=
  markup.push rfl

theorem IsMarkup.leaf (markup : reading.IsMarkup) (content : Leaf) (start stop : Nat) :
    (reading.leaf content start stop).IsMarkup :=
  ⟨List.forall_mem_cons.mpr ⟨rfl, markup.done⟩, markup.before⟩

theorem areMarkup_giveUp {openers : List OpenBracket} :
    ∀ {done : List Strand}, AreMarkupStrands done →
      (∀ opener ∈ openers, AreMarkupStrands opener.before) →
      AreMarkupStrands (giveUp done openers) := by
  induction openers with
  | nil => exact fun kinds _ => kinds
  | cons opener outer ih =>
      intro done kinds before
      rw [List.forall_mem_cons] at before
      refine ih (List.forall_mem_append.mpr ⟨kinds, ?_⟩) before.2
      exact List.forall_mem_cons.mpr ⟨rfl, before.1⟩

theorem IsMarkup.giveUpLast (markup : reading.IsMarkup) : reading.giveUpLast.IsMarkup := by
  rw [Reading.giveUpLast.eq_def]
  split
  · exact markup
  · rename_i opener outer openers
    have before := markup.before
    rw [openers, List.forall_mem_cons] at before
    exact ⟨areMarkup_giveUp markup.done (by simpa using before.1), before.2⟩

/-! ## Closing brackets -/

section Close

variable {opener : OpenBracket} {outer : List OpenBracket}
  (before : ∀ other ∈ opener :: outer, AreMarkupStrands other.before)

include before

theorem isMarkup_link (reading : Reading) (url : String) (stop resume : Nat) :
    (reading.link opener outer url stop resume).IsMarkup := by
  rw [List.forall_mem_cons] at before
  constructor
  · refine List.forall_mem_cons.mpr ⟨?_, before.1⟩
    show Tag.isInline (if opener.image then .image url else .link url) = true
    by_cases image : opener.image <;> simp [image, Tag.isInline]
  · show ∀ other ∈ (if opener.image then outer else outer.map _), AreMarkupStrands other.before
    split
    · exact before.2
    · intro other member
      obtain ⟨same, inside, rfl⟩ := List.mem_map.mp member
      exact before.2 same inside

theorem isMarkup_footnote (reading : Reading) (name : List Char) (closer : Piece) :
    (reading.footnote opener outer name closer).IsMarkup := by
  rw [List.forall_mem_cons] at before
  refine ⟨areMarkup_giveUp (List.forall_mem_append.mpr ⟨?_, before.1⟩) before.2, nofun⟩
  split
  · exact List.forall_mem_cons.mpr ⟨rfl, List.forall_mem_cons.mpr ⟨rfl, nofun⟩⟩
  · exact List.forall_mem_cons.mpr ⟨rfl, nofun⟩

theorem IsMarkup.ownLabel (markup : reading.IsMarkup) (definitions : Definitions)
    (closer : Piece) (resume : Nat) :
    (reading.ownLabel definitions opener outer closer resume).IsMarkup := by
  have plain := markup.giveUpLast.text closer
  rw [Reading.ownLabel.eq_def]
  dsimp only
  split
  · split
    · exact isMarkup_footnote before reading _ closer
    · exact plain
  · split
    · exact isMarkup_link before _ _ _ _
    · exact plain
  · exact plain

end Close

theorem IsMarkup.closeBracket (markup : reading.IsMarkup) (definitions : Definitions)
    (closer : Piece) (next : Option Piece) :
    (reading.closeBracket definitions closer next).IsMarkup := by
  have plain := markup.giveUpLast.text closer
  rw [Reading.closeBracket.eq_def]
  split
  · exact markup.text closer
  · rename_i opener outer openers
    have before : ∀ other ∈ opener :: outer, AreMarkupStrands other.before :=
      openers ▸ markup.before
    dsimp only
    split
    · exact plain
    · split
      · exact isMarkup_link before reading _ _ _
      · split
        · rename_i label stop _
          have tried : Reading.IsMarkup
              { reading with triedClosers := (stop - 1) :: reading.triedClosers } :=
            ⟨markup.done, markup.before⟩
          split
          · exact isMarkup_link before _ _ _ _
          · exact tried.giveUpLast.text closer
        · split
          · exact plain
          · exact IsMarkup.ownLabel before markup definitions closer _
        · split
          · exact plain
          · exact IsMarkup.ownLabel before markup definitions closer _

/-! ## Pieces -/

theorem IsMarkup.ticks (markup : reading.IsMarkup) (piece : Piece) (count : Nat) (escaped : Bool)
    (later : List Piece) : (reading.ticks piece count escaped later).IsMarkup := by
  rw [Reading.ticks.eq_def]
  dsimp only
  split
  · exact markup.text piece
  · split
    · exact (markup.push rfl).leaf _ _ _
    · exact markup.leaf _ _ _

theorem IsMarkup.angle (markup : reading.IsMarkup) (piece : Piece) :
    (reading.angle piece).IsMarkup := by
  rw [Reading.angle.eq_def]
  dsimp only
  split
  · exact ⟨List.forall_mem_cons.mpr ⟨rfl, markup.done⟩, markup.before⟩
  · split
    · exact markup.leaf _ _ _
    · split
      · exact markup.leaf _ _ _
      · exact markup.text piece

/-- One piece more. -/
theorem IsMarkup.read (markup : reading.IsMarkup) (definitions : Definitions) (piece : Piece)
    (later : List Piece) : (reading.read definitions piece later).IsMarkup := by
  rw [Reading.read.eq_def]
  split
  · exact markup.text piece
  · exact markup.push rfl
  · exact markup.ticks piece _ _ later
  · exact markup.angle piece
  · exact ⟨nofun, List.forall_mem_cons.mpr ⟨markup.done, markup.before⟩⟩
  · exact markup.closeBracket definitions piece _
  · exact markup.push rfl
  · exact markup.push rfl
  · exact markup.push rfl
  · exact markup.push rfl

/-- **All pieces.** -/
theorem isMarkup_readAll (definitions : Definitions) (pieces : List Piece) :
    ∀ {reading : Reading}, reading.IsMarkup → (reading.readAll definitions pieces).IsMarkup := by
  induction pieces with
  | nil => exact fun markup => markup
  | cons piece later ih =>
      intro reading markup
      rw [readAll]
      split
      · exact ih markup
      · exact ih (markup.read definitions _ later)

end Reading

/-- **Running text is read as leaves and markup.** -/
theorem areMarkup_treesOfPieces (definitions : Definitions) (budget : Nat) (pieces : List Piece) :
    AreMarkup (treesOfPieces definitions budget pieces).1 := by
  have read := Reading.isMarkup_readAll definitions pieces (Reading.isMarkup_start budget)
  refine Strand.areMarkup_trees fun strand member => ?_
  exact Reading.areMarkup_giveUp read.done read.before strand (List.mem_reverse.mp member)

end MarkdownPager.Markdown
