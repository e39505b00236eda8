import Mathlib.Data.List.Basic
import MarkdownPager.Proofs.Chunks

/-!
# Character boundaries

A byte offset is usable where a character begins or the text ends.  Between two such offsets there
is always a slice, and slices that meet make one slice together (`exists_slice?`, `slice?_append`).
An offset at which an ASCII byte stands is such a boundary, because no other byte of a longer
character is ASCII (`isBoundary_of_byteAt?`).
-/

namespace MarkdownPager.Text

/-- A character of the text begins at byte `n`, or the text ends there. -/
abbrev IsBoundary (s : String) (n : Nat) : Prop :=
  (⟨n⟩ : String.Pos.Raw).IsValid s

theorem isBoundary_zero (s : String) : IsBoundary s 0 := String.Pos.Raw.isValid_zero

theorem isBoundary_utf8ByteSize (s : String) : IsBoundary s s.utf8ByteSize :=
  String.Pos.Raw.isValid_rawEndPos

theorem IsBoundary.le_utf8ByteSize {s : String} {n : Nat} (boundary : IsBoundary s n) :
    n ≤ s.utf8ByteSize :=
  String.Pos.Raw.IsValid.le_utf8ByteSize boundary

/-- A boundary is where the text can be cut in two. -/
theorem isBoundary_iff {s : String} {n : Nat} :
    IsBoundary s n ↔ ∃ before after, s.toList = before ++ after ∧ byteLength before = n := by
  constructor
  · intro boundary
    obtain ⟨before, after, rfl, stop⟩ := String.Pos.Raw.isValid_iff_exists_append.mp boundary
    refine ⟨before.toList, after.toList, String.toList_append, ?_⟩
    rw [← utf8ByteSize_eq_byteLength]
    exact (congrArg String.Pos.Raw.byteIdx stop).symm
  · rintro ⟨before, after, split, rfl⟩
    have size : byteLength before = (String.ofList before).utf8ByteSize := by
      rw [utf8ByteSize_eq_byteLength, String.toList_ofList]
    refine String.Pos.Raw.isValid_iff_exists_append.mpr ⟨.ofList before, .ofList after, ?_, ?_⟩
    · rw [← String.ofList_append, ← split, String.ofList_toList]
    · rw [size]
      rfl

/-- A boundary of a text with one more line is one of the text or lies behind it. -/
theorem isBoundary_of_append {s t : String} {n : Nat} (boundary : IsBoundary (s ++ t) n) :
    IsBoundary s (min n s.utf8ByteSize) := by
  rcases String.Pos.Raw.isValid_append.mp boundary with inside | ⟨behind, -⟩
  · rwa [Nat.min_eq_left (IsBoundary.le_utf8ByteSize inside)]
  · have beyond : s.utf8ByteSize ≤ n := String.Pos.Raw.le_iff.mp behind
    rw [Nat.min_eq_right beyond]
    exact isBoundary_utf8ByteSize s

/-- An ASCII byte stands at the beginning of a character. -/
theorem isBoundary_of_byteAt? {s : String} {n : Nat} {byte : UInt8}
    (found : byteAt? s n = some byte) (ascii : byte &&& 0x80 = 0) : IsBoundary s n := by
  rw [byteAt?, getElem?_def] at found
  split at found
  · rename_i inside
    obtain rfl := Option.some.inj found
    exact String.Pos.Raw.isValid_iff_isUTF8FirstByte.mpr (.inr ⟨inside, .inl ascii⟩)
  · exact absurd found (Option.some_ne_none byte).symm

/-! ## Slices -/

/-- What is behind as many bytes as a prefix has. -/
theorem dropBytes_byteLength (before after : List Char) :
    dropBytes (byteLength before) (before ++ after) = some after := by
  induction before with
  | nil => rw [byteLength, dropBytes, List.nil_append]
  | cons c cs ih =>
      obtain ⟨size, positive⟩ :=
        Nat.exists_eq_succ_of_ne_zero (Nat.pos_iff_ne_zero.mp c.utf8Size_pos)
      have step : byteLength (c :: cs) = size + byteLength cs + 1 := by
        rw [byteLength, positive]
        omega
      have rest : size + byteLength cs + 1 - c.utf8Size = byteLength cs := by omega
      rw [step, List.cons_append, dropBytes, if_pos (by omega), rest, ih]

/-- The slice between two prefixes. -/
theorem slice?_byteLength {s : String} {before middle after : List Char}
    (split : s.toList = before ++ middle ++ after) :
    slice? s (byteLength before) (byteLength (before ++ middle)) = some (.ofList middle) := by
  have behind : byteLength (before ++ middle) - byteLength before = byteLength middle := by
    rw [byteLength_append, Nat.add_sub_cancel_left]
  have ordered : byteLength before ≤ byteLength (before ++ middle) := by
    rw [byteLength_append]
    exact Nat.le_add_right _ _
  rw [slice?, if_pos ordered, split, List.append_assoc, dropBytes_byteLength, Option.bind_some,
    behind, takeBytes_byteLength, Option.map_some]

/-- Two prefixes of one list of which one is no longer in bytes. -/
theorem exists_eq_append_of_byteLength_le {before after before' after' : List Char}
    (same : before ++ after = before' ++ after')
    (le : byteLength before ≤ byteLength before') : ∃ middle, before' = before ++ middle := by
  rcases List.append_eq_append_iff.mp same with ⟨middle, longer, -⟩ | ⟨middle, shorter, -⟩
  · exact ⟨middle, longer⟩
  · refine ⟨[], ?_⟩
    have empty : middle = [] := by
      by_contra nonempty
      have := byteLength_pos nonempty
      rw [shorter, byteLength_append] at le
      omega
    rw [shorter, empty, List.append_nil, List.append_nil]

/-- **Between two boundaries there is a slice.** -/
theorem exists_split_of_isBoundary {s : String} {start stop : Nat} (ordered : start ≤ stop)
    (first : IsBoundary s start) (last : IsBoundary s stop) :
    ∃ before middle after, s.toList = before ++ middle ++ after ∧ byteLength before = start ∧
      byteLength (before ++ middle) = stop := by
  obtain ⟨before, rest, split, rfl⟩ := isBoundary_iff.mp first
  obtain ⟨longer, after, split', rfl⟩ := isBoundary_iff.mp last
  obtain ⟨middle, rfl⟩ := exists_eq_append_of_byteLength_le (split.symm.trans split') ordered
  exact ⟨before, middle, after, split', rfl, rfl⟩

theorem exists_slice? {s : String} {start stop : Nat} (ordered : start ≤ stop)
    (first : IsBoundary s start) (last : IsBoundary s stop) :
    ∃ text, slice? s start stop = some text := by
  obtain ⟨before, middle, after, split, rfl, rfl⟩ := exists_split_of_isBoundary ordered first last
  exact ⟨_, slice?_byteLength split⟩

/-- **Slices that meet make one slice.** -/
theorem slice?_append {s : String} {start middle stop : Nat} (begin_le : start ≤ middle)
    (le_end : middle ≤ stop) (first : IsBoundary s start) (second : IsBoundary s middle)
    (last : IsBoundary s stop) :
    slice? s start stop =
      some ((slice? s start middle).getD "" ++ (slice? s middle stop).getD "") := by
  obtain ⟨before, left, rest, split, rfl, rfl⟩ := exists_split_of_isBoundary begin_le first second
  obtain ⟨before', right, after, split', same, rfl⟩ :=
    exists_split_of_isBoundary le_end second last
  have eq : before' = before ++ left := by
    have halves : (before ++ left) ++ rest = before' ++ (right ++ after) := by
      rw [← split, split', List.append_assoc]
    obtain ⟨extra, rfl⟩ := exists_eq_append_of_byteLength_le halves (Nat.le_of_eq same.symm)
    rcases eq_or_ne extra [] with rfl | nonempty
    · exact List.append_nil _
    · have := byteLength_pos nonempty
      rw [byteLength_append] at same
      omega
  subst eq
  have whole : s.toList = before ++ (left ++ right) ++ after := by
    rw [split', List.append_assoc before left right]
  rw [slice?_byteLength split, slice?_byteLength split', Option.getD_some, Option.getD_some,
    ← String.ofList_append, List.append_assoc before left right, slice?_byteLength whole]

/-- The slice from the beginning to the end. -/
theorem slice?_whole (s : String) : slice? s 0 s.utf8ByteSize = some s := by
  have split : s.toList = s.toList ++ [] := (List.append_nil _).symm
  rw [utf8ByteSize_eq_byteLength, slice?_zero_byteLength split, String.ofList_toList]

/-- A slice without bytes is empty. -/
theorem slice?_self {s : String} {n : Nat} (boundary : IsBoundary s n) :
    slice? s n n = some "" := by
  obtain ⟨before, after, split, rfl⟩ := isBoundary_iff.mp boundary
  have empty : s.toList = before ++ [] ++ after := by rw [split, List.append_nil]
  simpa using slice?_byteLength empty

end MarkdownPager.Text
