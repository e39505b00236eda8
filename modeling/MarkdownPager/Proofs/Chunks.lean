import Mathlib.Data.List.Infix
import MarkdownPager.Pager.Stream

/-!
# Where a streamed text is cut

The offsets behind the chunks of a text are the lengths of prefixes of it, and they go up.  So each
text that a stream shows is a prefix of the source that strictly extends the one shown before, and
the last of them is the source itself (`pairwise_streamTexts`, `getLast?_streamTexts`).
-/

namespace MarkdownPager

namespace Text

/-! ## Bytes of a prefix -/

theorem byteLength_append (before after : List Char) :
    byteLength (before ++ after) = byteLength before + byteLength after := by
  induction before with
  | nil => simp [byteLength]
  | cons c cs ih =>
      rw [List.cons_append, byteLength, byteLength, ih]
      omega

theorem byteLength_pos {cs : List Char} (nonempty : cs ≠ []) : 0 < byteLength cs := by
  cases cs with
  | nil => exact absurd rfl nonempty
  | cons c cs => exact Nat.add_pos_left c.utf8Size_pos _

theorem utf8ByteSize_eq_byteLength (s : String) : s.utf8ByteSize = byteLength s.toList := by
  induction s using String.push_induction with
  | empty => rfl
  | push s c ih =>
      rw [String.utf8ByteSize_push, String.toList_push, byteLength_append, ih]
      rfl

/-- As many bytes as a prefix has are that prefix. -/
theorem takeBytes_byteLength (before after : List Char) :
    takeBytes (byteLength before) (before ++ after) = some before := by
  induction before with
  | nil => rw [byteLength, takeBytes]
  | cons c cs ih =>
      obtain ⟨size, positive⟩ :=
        Nat.exists_eq_succ_of_ne_zero (Nat.pos_iff_ne_zero.mp c.utf8Size_pos)
      have step : byteLength (c :: cs) = size + byteLength cs + 1 := by
        rw [byteLength, positive]
        omega
      have rest : size + byteLength cs + 1 - c.utf8Size = byteLength cs := by omega
      rw [step, List.cons_append, takeBytes, if_pos (by omega), rest, ih, Option.map_some]

/-- The slice up to the end of a prefix. -/
theorem slice?_zero_byteLength {s : String} {before after : List Char}
    (split : s.toList = before ++ after) :
    slice? s 0 (byteLength before) = some (.ofList before) := by
  rw [slice?, if_pos (Nat.zero_le _), dropBytes, Option.bind_some, Nat.sub_zero, split,
    takeBytes_byteLength, Option.map_some]

end Text

/-! ## Offsets behind chunks -/

/-- Every offset is the length of what comes before it, and something follows it. -/
theorem exists_of_mem_chunkEnds {chunk : Nat} (cs : List Char) :
    ∀ (before : List Char) {wait stop : Nat},
      stop ∈ chunkEnds chunk (Text.byteLength before) wait cs →
      ∃ taken rest, cs = taken ++ rest ∧ rest ≠ [] ∧
        stop = Text.byteLength (before ++ taken) := by
  induction cs with
  | nil =>
      intro before wait stop member
      simp [chunkEnds] at member
  | cons c cs ih =>
      intro before wait stop member
      have next : Text.byteLength before + c.utf8Size = Text.byteLength (before ++ [c]) := by
        rw [Text.byteLength_append]
        rfl
      -- A later offset counts from behind the first character.
      have later : ∀ {wait}, stop ∈ chunkEnds chunk (Text.byteLength before + c.utf8Size) wait cs →
          ∃ taken rest, c :: cs = taken ++ rest ∧ rest ≠ [] ∧
            stop = Text.byteLength (before ++ taken) := by
        intro wait member
        rw [next] at member
        obtain ⟨taken, rest, split, follows, rfl⟩ := ih (before ++ [c]) member
        exact ⟨c :: taken, rest, by rw [split, List.cons_append], follows, by simp⟩
      cases wait with
      | zero =>
          rw [chunkEnds, List.mem_cons] at member
          rcases member with rfl | member
          · exact ⟨[], c :: cs, rfl, List.cons_ne_nil _ _, by simp⟩
          · exact later member
      | succ wait =>
          rw [chunkEnds] at member
          exact later member

/-- The offsets go up. -/
theorem pairwise_chunkEnds {chunk : Nat} (cs : List Char) :
    ∀ offset wait, (chunkEnds chunk offset wait cs).Pairwise (· < ·) ∧
      ∀ stop ∈ chunkEnds chunk offset wait cs, offset ≤ stop := by
  induction cs with
  | nil =>
      intro offset wait
      simp [chunkEnds]
  | cons c cs ih =>
      intro offset wait
      have positive := c.utf8Size_pos
      cases wait with
      | zero =>
          obtain ⟨sorted, above⟩ := ih (offset + c.utf8Size) (chunk - 1)
          rw [chunkEnds, List.pairwise_cons, List.forall_mem_cons]
          refine ⟨⟨fun stop member => ?_, sorted⟩, Nat.le_refl _, fun stop member => ?_⟩
          · have := above stop member
            omega
          · have := above stop member
            omega
      | succ wait =>
          obtain ⟨sorted, above⟩ := ih (offset + c.utf8Size) wait
          rw [chunkEnds]
          refine ⟨sorted, fun stop member => ?_⟩
          have := above stop member
          omega

variable (source : String) (chunk : Nat)

/-- Every offset is the length of a prefix. -/
theorem exists_of_mem_streamOffsets {stop : Nat} (member : stop ∈ streamOffsets source chunk) :
    ∃ taken rest, source.toList = taken ++ rest ∧ stop = Text.byteLength taken := by
  rw [streamOffsets, List.mem_append] at member
  rcases member with inside | last
  · obtain ⟨taken, rest, split, -, rfl⟩ := exists_of_mem_chunkEnds source.toList [] inside
    exact ⟨taken, rest, split, rfl⟩
  · refine ⟨source.toList, [], (List.append_nil _).symm, ?_⟩
    rw [List.mem_singleton.mp last, Text.utf8ByteSize_eq_byteLength]

/-- The offsets of a stream go up. -/
theorem pairwise_streamOffsets : (streamOffsets source chunk).Pairwise (· < ·) := by
  rw [streamOffsets, List.pairwise_append]
  refine ⟨(pairwise_chunkEnds source.toList 0 _).1, List.pairwise_singleton _ _, ?_⟩
  intro stop member last isLast
  obtain ⟨taken, rest, split, follows, rfl⟩ :=
    exists_of_mem_chunkEnds source.toList [] member
  have positive := Text.byteLength_pos follows
  rw [List.mem_singleton.mp isLast, Text.utf8ByteSize_eq_byteLength, split, List.nil_append,
    Text.byteLength_append]
  omega

/-! ## Texts of a stream -/

/-- The texts that a stream shows one after the other. -/
def streamTexts : List String :=
  (streamOffsets source chunk).map fun stop => (Text.slice? source 0 stop).getD ""

/-- **Every text strictly extends those before it.** -/
theorem pairwise_streamTexts :
    (streamTexts source chunk).Pairwise fun old new => Reconcile.strictlyExtends old new := by
  rw [streamTexts, List.pairwise_map]
  refine (pairwise_streamOffsets source chunk).imp_of_mem ?_
  intro stop later member laterMember less
  obtain ⟨old, afterOld, splitOld, rfl⟩ := exists_of_mem_streamOffsets source chunk member
  obtain ⟨new, afterNew, splitNew, rfl⟩ := exists_of_mem_streamOffsets source chunk laterMember
  rw [Text.slice?_zero_byteLength splitOld, Text.slice?_zero_byteLength splitNew]
  have nested : old <+: new := by
    rcases List.prefix_or_prefix_of_prefix ⟨afterOld, splitOld.symm⟩ ⟨afterNew, splitNew.symm⟩ with
      nested | ⟨more, rfl⟩
    · exact nested
    · rw [Text.byteLength_append] at less
      omega
  obtain ⟨more, rfl⟩ := nested
  have grows : more ≠ [] := by
    rintro rfl
    simp at less
  simpa [Reconcile.strictlyExtends] using List.length_pos_iff.mpr grows

/-- **The last text is the source.** -/
theorem getLast?_streamTexts : (streamTexts source chunk).getLast? = some source := by
  have whole : Text.slice? source 0 (Text.byteLength source.toList) =
      some (.ofList source.toList) := Text.slice?_zero_byteLength (List.append_nil _).symm
  simp [streamTexts, streamOffsets, Text.utf8ByteSize_eq_byteLength, whole]

end MarkdownPager
