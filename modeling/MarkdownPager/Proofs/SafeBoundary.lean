import Mathlib.Data.List.Basic
import MarkdownPager.Proofs.Boundary
import MarkdownPager.Proofs.Reconcile

/-!
# What a safe boundary promises

A reconciliation and the query for the boundary decide apart from each other whether the blocks at
the beginning of a document can be kept without looking at them.  There are several reasons to give
that up: the new text does not go on behind the old one, the old text has no line feed, a span is
inverted, no block reaches the line feed, there are too few new blocks, or no old ones.

* `StrictlyExtends` — a text that goes on behind another one, and `strictlyExtends_iff`.
* `boundaryIndex?_spec` — where the boundary is, in terms of spans and of the last line feed.
* `Document.Settles` — the promise: what comes before the boundary ends before the last line feed,
  so it has the same bytes in every text that goes on behind the old one.
* `strategy_agrees_with_boundary` — the strategy of a reconciliation is the one that the query asks
  for, and the query keeps its promise for documents with any spans.
-/

namespace MarkdownPager

universe u v

variable {σ : Type u} {π : Type v}

/-! ## Texts that go on -/

/-- The new text is the old one with something more at its end. -/
def StrictlyExtends (old new : String) : Prop :=
  ∃ more, more ≠ "" ∧ new = old ++ more

theorem strictlyExtends_iff {old new : String} :
    Reconcile.strictlyExtends old new = true ↔ StrictlyExtends old new := by
  rw [Reconcile.strictlyExtends, Bool.and_eq_true, decide_eq_true_eq, List.isPrefixOf_iff_prefix]
  constructor
  · rintro ⟨longer, rest, same⟩
    refine ⟨.ofList rest, ?_, ?_⟩
    · rintro empty
      obtain rfl : rest = [] := by simpa using congrArg String.toList empty
      rw [← same, List.append_nil] at longer
      exact Nat.lt_irrefl _ longer
    · rw [← String.toList_inj, String.toList_append, String.toList_ofList, same]
  · rintro ⟨more, nonempty, rfl⟩
    have positive : 0 < more.toList.length :=
      List.length_pos_iff.mpr fun empty => nonempty (String.toList_eq_nil_iff.mp empty)
    refine ⟨?_, more.toList, String.toList_append.symm⟩
    rw [String.toList_append, List.length_append]
    exact Nat.lt_add_of_pos_right positive

namespace Text

/-- **A text that goes on keeps its bytes.** -/
theorem byteAt?_append {s : String} {byte : Nat} (inside : byte < s.utf8ByteSize)
    (more : String) :
    ∃ value, byteAt? s byte = some value ∧ byteAt? (s ++ more) byte = some value := by
  have inBytes : byte < s.toUTF8.size := inside
  have inLonger : byte < (s ++ more).toUTF8.size := by
    show byte < (s ++ more).utf8ByteSize
    rw [String.utf8ByteSize_append]
    exact Nat.lt_add_right _ inside
  refine ⟨s.toUTF8[byte], getElem?_pos s.toUTF8 byte inBytes, ?_⟩
  rw [byteAt?, getElem?_pos (s ++ more).toUTF8 byte inLonger, Option.some.injEq]
  simp only [String.toUTF8, String.toByteArray_append]
  exact ByteArray.getElem_append_left inBytes

/-- The last line feed of a text stands at byte `feed`. -/
def IsLastLineFeed (s : String) (feed : Nat) : Prop :=
  ∃ before after, s.toList = before ++ '\n' :: after ∧ '\n' ∉ after ∧ byteLength before = feed

theorem notMem_of_lastOffsetOf? {target : Char} {cs : List Char}
    (absent : lastOffsetOf? target cs = none) : target ∉ cs := by
  induction cs with
  | nil => exact List.not_mem_nil
  | cons c cs ih =>
      rw [lastOffsetOf?] at absent
      split at absent
      · cases absent
      · rename_i none_later
        split at absent
        · cases absent
        · rename_i other
          rw [List.mem_cons, not_or]
          exact ⟨Ne.symm other, ih none_later⟩

theorem exists_of_lastOffsetOf? {target : Char} {cs : List Char} :
    ∀ {offset : Nat}, lastOffsetOf? target cs = some offset →
      ∃ before after, cs = before ++ target :: after ∧ target ∉ after ∧
        byteLength before = offset := by
  induction cs with
  | nil =>
      intro offset found
      cases found
  | cons c cs ih =>
      intro offset found
      rw [lastOffsetOf?] at found
      split at found
      · rename_i later in_rest
        obtain ⟨before, after, rfl, last, rfl⟩ := ih in_rest
        exact ⟨c :: before, after, rfl, last, Option.some.inj found⟩
      · rename_i none_later
        split at found
        · rename_i here
          subst here
          exact ⟨[], cs, rfl, notMem_of_lastOffsetOf? none_later, Option.some.inj found⟩
        · cases found

/-- A line feed stands inside its text. -/
theorem IsLastLineFeed.lt_utf8ByteSize {s : String} {feed : Nat} (last : IsLastLineFeed s feed) :
    feed < s.utf8ByteSize := by
  obtain ⟨before, after, split, -, rfl⟩ := last
  rw [utf8ByteSize_eq_byteLength, split, byteLength_append]
  exact Nat.lt_add_of_pos_right (byteLength_pos (List.cons_ne_nil _ _))

end Text

/-! ## The boundary -/

namespace Reconcile

/-- **Where the boundary is.**  All spans are upright, and the boundary is the first block that
reaches the last line feed. -/
theorem boundaryIndex?_spec {old : Document} {boundary : Nat}
    (found : boundaryIndex? old = some boundary) :
    ∃ feed, Text.IsLastLineFeed old.source feed ∧
      (∀ node ∈ old.blocks, node.span.start ≤ node.span.stop) ∧
      (∀ node, old.blocks[boundary]? = some node → feed ≤ node.span.stop) ∧
      ∀ index < boundary, ∀ node, old.blocks[index]? = some node → node.span.stop < feed := by
  rw [boundaryIndex?] at found
  obtain ⟨feed, last, found⟩ := Option.bind_eq_some_iff.mp found
  split at found
  · cases found
  · rename_i upright
    obtain ⟨inside, reaches, before⟩ := List.findIdx?_eq_some_iff_getElem.mp found
    refine ⟨feed, Text.exists_of_lastOffsetOf? last, fun node member => ?_, fun node present => ?_,
      fun index below node present => ?_⟩
    · by_contra inverted
      refine upright (List.any_eq_true.mpr ⟨node, member, ?_⟩)
      exact decide_eq_true (Nat.lt_of_not_le inverted)
    · obtain ⟨_, rfl⟩ := List.getElem?_eq_some_iff.mp present
      exact of_decide_eq_true reaches
    · obtain ⟨_, rfl⟩ := List.getElem?_eq_some_iff.mp present
      exact Nat.lt_of_not_le fun le => before index below (decide_eq_true le)

end Reconcile

/-- **What a boundary promises** for a text `new` that goes on behind a document, whose last line
feed is at byte `feed`. -/
structure Document.Settles (old : Document) (new : String) (boundary feed : Nat) : Prop where
  /-- The boundary is a block of the document. -/
  inside : boundary < old.blocks.length
  lastLineFeed : Text.IsLastLineFeed old.source feed
  upright : ∀ node ∈ old.blocks, node.span.start ≤ node.span.stop
  /-- What comes before the boundary ends before the line feed. -/
  before : ∀ index < boundary, ∀ node, old.blocks[index]? = some node → node.span.stop < feed
  /-- The block at the boundary does not. -/
  reaches : ∀ node, old.blocks[boundary]? = some node → feed ≤ node.span.stop
  /-- What comes before the boundary has the same bytes in both texts. -/
  sameBytes : ∀ index < boundary, ∀ node, old.blocks[index]? = some node →
    ∀ byte, node.span.start ≤ byte → byte < node.span.stop →
      ∃ value, Text.byteAt? old.source byte = some value ∧ Text.byteAt? new byte = some value

/-- **The query keeps its promise.** -/
theorem Document.exists_settles {old : Document} {new : String} {boundary : Nat}
    (found : safeBoundary old new = some boundary) : ∃ feed, old.Settles new boundary feed := by
  obtain ⟨goesOn, index⟩ := Option.ite_none_right_eq_some.mp found
  obtain ⟨more, -, rfl⟩ := strictlyExtends_iff.mp goesOn
  obtain ⟨feed, last, upright, reaches, before⟩ := Reconcile.boundaryIndex?_spec index
  refine ⟨feed, Reconcile.lt_length_of_boundaryIndex? index, last, upright, before, reaches, ?_⟩
  intro index below node present byte _ inside
  have inText : byte < old.source.utf8ByteSize :=
    Nat.lt_trans (Nat.lt_trans inside (before index below node present)) last.lt_utf8ByteSize
  exact Text.byteAt?_append inText more

/-! ## The strategy -/

namespace Reconcile

/-- The query gives a boundary that is not behind the end of the new version. -/
def FitsBoundary (old new : Document) (boundary : Nat) : Prop :=
  safeBoundary old new.source = some boundary ∧ boundary ≤ new.blocks.length

theorem isEmpty_eq_false_iff {document : Document} :
    document.isEmpty = false ↔ document.blocks ≠ [] := by
  rw [Document.isEmpty, List.isEmpty_eq_false_iff]

section Strategy

variable {current : Option Document} {new : Document}

/-- **What a strategy tells.**  The blocks before a boundary are kept only if the query gives this
boundary, and contents are compared only where the new text does not go on behind the old one. -/
theorem strategyFor_cases (current : Option Document) (new : Document) :
    strategyFor current new = .rebuild ∨
      ∃ old, current = some old ∧ old.blocks ≠ [] ∧
        ((∃ boundary, FitsBoundary old new boundary ∧
            strategyFor current new = .safeBoundary boundary) ∨
          ¬ StrictlyExtends old.source new.source ∧ strategyFor current new = .positional) := by
  cases current with
  | none => exact .inl rfl
  | some old =>
      cases empty : old.isEmpty with
      | true => exact .inl (by simp [strategyFor, empty])
      | false =>
          have nonempty : old.blocks ≠ [] := isEmpty_eq_false_iff.mp empty
          by_cases goesOn : strictlyExtends old.source new.source = true
          · cases found : boundaryIndex? old with
            | none => exact .inl (by simp [strategyFor, empty, goesOn, found])
            | some boundary =>
                by_cases enough : boundary ≤ new.blocks.length
                · have asked : safeBoundary old new.source = some boundary := by
                    rw [safeBoundary, if_pos goesOn, found]
                  exact .inr ⟨old, rfl, nonempty, .inl ⟨boundary, ⟨asked, enough⟩,
                    strategyFor_of_safeBoundary asked enough⟩⟩
                · exact .inl (by simp [strategyFor, empty, goesOn, found, enough])
          · refine .inr ⟨old, rfl, nonempty, .inr ⟨mt strictlyExtends_iff.mpr goesOn, ?_⟩⟩
            simp [strategyFor, empty, goesOn]

theorem strategyFor_eq_safeBoundary_iff {boundary : Nat} :
    strategyFor current new = .safeBoundary boundary ↔
      ∃ old, current = some old ∧ old.blocks ≠ [] ∧ FitsBoundary old new boundary := by
  constructor
  · intro strategy
    rcases strategyFor_cases current new with
      rebuild | ⟨old, present, nonempty, ⟨other, fits, kept⟩ | ⟨-, compared⟩⟩
    · cases rebuild.symm.trans strategy
    · cases kept.symm.trans strategy
      exact ⟨old, present, nonempty, fits⟩
    · cases compared.symm.trans strategy
  · rintro ⟨old, rfl, -, found, enough⟩
    exact strategyFor_of_safeBoundary found enough

theorem strategyFor_eq_positional_iff :
    strategyFor current new = .positional ↔
      ∃ old, current = some old ∧ old.blocks ≠ [] ∧ ¬ StrictlyExtends old.source new.source := by
  constructor
  · intro strategy
    rcases strategyFor_cases current new with
      rebuild | ⟨old, present, nonempty, ⟨other, -, kept⟩ | ⟨differs, -⟩⟩
    · cases rebuild.symm.trans strategy
    · cases kept.symm.trans strategy
    · exact ⟨old, present, nonempty, differs⟩
  · rintro ⟨old, rfl, nonempty, differs⟩
    have content : old.isEmpty = false := isEmpty_eq_false_iff.mpr nonempty
    have ends : ¬ strictlyExtends old.source new.source = true := mt strictlyExtends_iff.mp differs
    simp [strategyFor, content, ends]

/-- Everything is built where neither of the other strategies applies. -/
theorem strategyFor_eq_rebuild_iff :
    strategyFor current new = .rebuild ↔
      current = none ∨ ∃ old, current = some old ∧
        (old.blocks = [] ∨
          StrictlyExtends old.source new.source ∧ ¬ ∃ boundary, FitsBoundary old new boundary) := by
  have otherwise : strategyFor current new = .rebuild ↔
      (∀ boundary, strategyFor current new ≠ .safeBoundary boundary) ∧
        strategyFor current new ≠ .positional := by
    cases strategyFor current new <;> simp
  simp only [otherwise, ne_eq, strategyFor_eq_safeBoundary_iff, strategyFor_eq_positional_iff]
  cases current with
  | none => simp
  | some old =>
      by_cases nonempty : old.blocks = []
      · simp [nonempty]
      · simp [nonempty, and_comm]

end Strategy

/-- **The strategy and the boundary.**  A reconciliation keeps the blocks before a boundary exactly
when the query gives this boundary and the new version has as many blocks; it builds everything when
there is no old block, or when the new text goes on behind the old one without such a boundary; and
in all other cases it compares.  Whenever the query gives a boundary, the blocks before it are
settled. -/
theorem strategy_agrees_with_boundary (materialize : Materializer σ π) (current : Option Document)
    (new : Document) (registry : Registry π) (state : σ) :
    let strategy := (reconcile materialize current new registry state).1.strategy
    (∀ boundary, strategy = .safeBoundary boundary ↔
      ∃ old, current = some old ∧ old.blocks ≠ [] ∧
        safeBoundary old new.source = some boundary ∧ boundary ≤ new.blocks.length) ∧
    (strategy = .rebuild ↔
      current = none ∨ ∃ old, current = some old ∧
        (old.blocks = [] ∨ StrictlyExtends old.source new.source ∧
          ¬ ∃ boundary, safeBoundary old new.source = some boundary ∧
            boundary ≤ new.blocks.length)) ∧
    (strategy = .positional ↔
      ∃ old, current = some old ∧ old.blocks ≠ [] ∧ ¬ StrictlyExtends old.source new.source) ∧
    ∀ (old : Document) (text : String) (boundary : Nat),
      safeBoundary old text = some boundary → ∃ feed, old.Settles text boundary feed := by
  intro strategy
  have same : strategy = strategyFor current new := strategy_reconcile ..
  rw [same]
  exact ⟨fun boundary => strategyFor_eq_safeBoundary_iff, strategyFor_eq_rebuild_iff,
    strategyFor_eq_positional_iff, fun old text boundary => Document.exists_settles⟩

/-- Two spans overlap, one of them begins inside a character, and the last span reaches the line feed
at byte 4. -/
def overlapping : Document where
  source := "é\nb\nc"
  blocks :=
    [⟨⟨1⟩, ⟨0, 2⟩, .paragraph [.text "é"]⟩,
      ⟨⟨2⟩, ⟨1, 3⟩, .paragraph [.text "b"]⟩,
      ⟨⟨3⟩, ⟨5, 6⟩, .paragraph [.text "c"]⟩]

/-- The first two blocks are settled in every version that goes on and has two blocks. -/
theorem strategy_agrees_with_boundary_overlapping :
    let new : Document := ⟨"é\nb\ncd", overlapping.blocks.take 2⟩
    safeBoundary overlapping new.source = some 2 ∧
      (reconcile (fun node state => (node.id, state)) (some overlapping) new .empty ()).1.strategy =
        .safeBoundary 2 ∧
      ∃ feed, overlapping.Settles new.source 2 feed := by
  intro new
  have found : safeBoundary overlapping new.source = some 2 := by decide +kernel
  obtain ⟨kept, -, -, settled⟩ := strategy_agrees_with_boundary
    (fun node state => (node.id, state)) (some overlapping) new .empty ()
  exact ⟨found, (kept 2).mpr ⟨overlapping, rfl, List.cons_ne_nil _ _, found, by decide⟩,
    settled overlapping new.source 2 found⟩

end Reconcile

end MarkdownPager
