import MarkdownPager.Proofs.Boundary
import MarkdownPager.Proofs.SafeBoundary

/-!
# The pieces of a streamed text

The offsets of a stream are counted in bytes and its chunks in characters.  `chunkEnds` goes through
the characters one by one and counts both.  A text that is not longer than what the current chunk
still takes has no offset in it.  In a longer one the first offset is behind as many characters, and
from there on it is as if the text began (`chunkEnds_of_length_le`, `chunkEnds_of_lt_length`).  These
two say all there is about the count, and what follows is an induction over the pieces.

* `Text.cutAt` — what is between neighbouring offsets, and nothing where one of them is inside a
  character or out of order.
* `Text.InPieces` — a text in pieces of one size, of which only the last may be shorter.
* `streamOffsets_partition` — the offsets of a stream cut its text into such pieces, and each text
  that the stream shows goes on behind the one before it.
-/

namespace MarkdownPager

universe u v

/-! ## Cutting a text -/

namespace Text

/-- The texts between neighbouring offsets, the first of which is `start`. -/
def cutAt (s : String) (start : Nat) : List Nat → List (Option String)
  | [] => []
  | stop :: stops => slice? s start stop :: cutAt s stop stops

/-- A text in pieces of `size` characters.  The last piece may have fewer, but not none unless the
text is empty. -/
structure InPieces (size : Nat) (text : String) (pieces : List String) : Prop where
  join_eq : String.join pieces = text
  full : ∀ piece ∈ pieces.dropLast, piece.length = size
  last : ∃ piece, pieces.getLast? = some piece ∧ piece.length ≤ size ∧
    (text ≠ "" → 1 ≤ piece.length)

/-- A text of at most `size` characters is one piece. -/
theorem inPieces_singleton {size : Nat} {text : String} (short : text.length ≤ size) :
    InPieces size text [text] where
  join_eq := by rw [String.join_cons, String.join_nil, String.append_empty]
  full := by simp
  last := by
    refine ⟨text, rfl, short, fun nonempty => ?_⟩
    rw [Nat.one_le_iff_ne_zero]
    exact mt String.length_eq_zero_iff.mp nonempty

/-- A full piece in front of a text in pieces. -/
theorem InPieces.cons {size : Nat} {piece rest : String} {pieces : List String}
    (inPieces : InPieces size rest pieces) (full : piece.length = size) (nonempty : rest ≠ "") :
    InPieces size (piece ++ rest) (piece :: pieces) := by
  obtain ⟨join, others, last, isLast, short, positive⟩ := inPieces
  have some : pieces ≠ [] := by
    rintro rfl
    cases isLast
  constructor
  · rw [String.join_cons, join]
  · rw [List.dropLast_cons_of_ne_nil some]
    exact List.forall_mem_cons.mpr ⟨full, others⟩
  · refine ⟨last, ?_, short, fun _ => positive nonempty⟩
    rw [List.getLast?_cons, isLast]
    rfl

end Text

/-! ## Offsets inside a text -/

section ChunkEnds

variable {size : Nat}

/-- There is no offset in a text that the current chunk takes as a whole. -/
theorem chunkEnds_of_length_le (cs : List Char) :
    ∀ {offset wait : Nat}, cs.length ≤ wait → chunkEnds size offset wait cs = [] := by
  induction cs with
  | nil => exact fun _ => chunkEnds.eq_1 ..
  | cons c cs ih =>
      intro offset wait short
      cases wait with
      | zero => cases short
      | succ wait =>
          rw [chunkEnds]
          exact ih (Nat.le_of_succ_le_succ short)

/-- The first offset in a longer text is behind the characters that the current chunk takes. -/
theorem chunkEnds_of_lt_length (positive : 0 < size) (cs : List Char) :
    ∀ {offset wait : Nat}, wait < cs.length →
      chunkEnds size offset wait cs =
        (offset + Text.byteLength (cs.take wait)) ::
          chunkEnds size (offset + Text.byteLength (cs.take wait)) size (cs.drop wait) := by
  induction cs with
  | nil => exact fun long => absurd long (Nat.not_lt_zero _)
  | cons c cs ih =>
      intro offset wait long
      cases wait with
      | zero =>
          obtain ⟨less, rfl⟩ := Nat.exists_eq_succ_of_ne_zero (Nat.ne_of_gt positive)
          rw [chunkEnds, List.take_zero, List.drop_zero, Text.byteLength, Nat.add_zero, chunkEnds]
          rfl
      | succ wait =>
          rw [chunkEnds, ih (Nat.lt_of_succ_lt_succ long), List.take_succ_cons,
            List.drop_succ_cons, Text.byteLength, Nat.add_assoc]

/-- **The pieces behind a chunk.**  What is left of a text after some chunks is cut into pieces. -/
theorem inPieces_chunkEnds (positive : 0 < size) {source : String} (before after : List Char)
    (split : source.toList = before ++ after) :
    ∃ pieces : List String,
      Text.cutAt source (Text.byteLength before)
          (chunkEnds size (Text.byteLength before) size after ++ [source.utf8ByteSize]) =
        pieces.map some ∧
      Text.InPieces size (.ofList after) pieces := by
  by_cases short : after.length ≤ size
  · have piece : Text.slice? source (Text.byteLength before) source.utf8ByteSize =
        some (.ofList after) := by
      rw [Text.utf8ByteSize_eq_byteLength, split]
      exact Text.slice?_byteLength (split.trans (List.append_nil _).symm)
    refine ⟨[.ofList after], ?_, Text.inPieces_singleton ?_⟩
    · rw [chunkEnds_of_length_le after short, List.nil_append, Text.cutAt, piece]
      rfl
    · rwa [String.length_ofList]
  · have long : size < after.length := Nat.lt_of_not_le short
    have parts : before ++ after.take size ++ after.drop size = source.toList := by
      rw [List.append_assoc, List.take_append_drop, split]
    -- The rest is shorter because a chunk has at least one character.
    obtain ⟨pieces, cut, inPieces⟩ :=
      inPieces_chunkEnds positive (before ++ after.take size) (after.drop size) parts.symm
    have more : String.ofList (after.drop size) ≠ "" := by
      rw [Ne, String.ofList_eq_empty_iff, List.drop_eq_nil_iff]
      exact Nat.not_le_of_lt long
    have full : (String.ofList (after.take size)).length = size := by
      rw [String.length_ofList, List.length_take, Nat.min_eq_left (Nat.le_of_lt long)]
    refine ⟨.ofList (after.take size) :: pieces, ?_, ?_⟩
    · rw [chunkEnds_of_lt_length positive after long, ← Text.byteLength_append, List.cons_append,
        Text.cutAt, cut, Text.slice?_byteLength parts.symm, List.map_cons]
    · have inPieces := inPieces.cons full more
      rwa [← String.ofList_append, List.take_append_drop] at inPieces
  termination_by after.length
  decreasing_by
    rw [List.length_drop]
    omega

end ChunkEnds

/-! ## Offsets of a stream -/

section Stream

variable (source : String) (chunk : Nat)

theorem isBoundary_of_mem_streamOffsets {stop : Nat} (member : stop ∈ streamOffsets source chunk) :
    Text.IsBoundary source stop := by
  obtain ⟨taken, rest, split, rfl⟩ := exists_of_mem_streamOffsets source chunk member
  exact Text.isBoundary_iff.mpr ⟨taken, rest, split, rfl⟩

theorem exists_inPieces_streamOffsets :
    ∃ pieces : List String, Text.cutAt source 0 (streamOffsets source chunk) = pieces.map some ∧
      Text.InPieces (max chunk 1) source pieces := by
  have positive : 0 < max chunk 1 := Nat.lt_of_lt_of_le Nat.one_pos (Nat.le_max_right _ _)
  obtain ⟨pieces, cut, inPieces⟩ := inPieces_chunkEnds positive [] source.toList rfl
  rw [String.ofList_toList] at inPieces
  exact ⟨pieces, cut, inPieces⟩

/-- The texts that a stream shows are the slices up to its offsets, which all exist. -/
theorem map_slice?_streamOffsets :
    (streamOffsets source chunk).map (Text.slice? source 0) =
      (streamTexts source chunk).map some := by
  rw [streamTexts, List.map_map]
  refine List.map_congr_left fun stop member => ?_
  have boundary := isBoundary_of_mem_streamOffsets source chunk member
  obtain ⟨text, slice⟩ :=
    Text.exists_slice? (Nat.zero_le stop) (Text.isBoundary_zero source) boundary
  rw [Function.comp_apply, slice, Option.getD_some]

variable {σ : Type u} {π : Type v}

/-- Shows a text and counts what that took. -/
def showCounted (shown : StreamStats × LiveDocument σ π) (text : String) :
    Except Error (StreamStats × LiveDocument σ π) := do
  let (applied, live) ← shown.2.update text
  return (shown.1.record applied, live)

theorem streamPrefixes_eq_foldlM (stops : List Nat) :
    ∀ (stats : StreamStats) (live : LiveDocument σ π),
      streamPrefixes source stops stats live =
        (stops.map fun stop => (Text.slice? source 0 stop).getD "").foldlM showCounted
          (stats, live) := by
  induction stops with
  | nil => exact fun _ _ => rfl
  | cons stop stops ih =>
      intro stats live
      rw [streamPrefixes, List.map_cons, List.foldlM_cons, showCounted]
      cases live.update ((Text.slice? source 0 stop).getD "") with
      | error failure => rfl
      | ok answer => exact ih _ _

end Stream

/-- **The offsets of a stream partition its text.**  They go up strictly, each of them is a character
boundary, and the last one is the length of the text; for the empty text it is the only one.  Cutting
at them succeeds everywhere, and the pieces are the text: each has as many characters as a chunk, and
only the last may have fewer, though at least one unless there is no text.

A stream shows the slices up to these offsets one after the other, and each of them goes on behind
those before it. -/
theorem streamOffsets_partition {σ : Type u} {π : Type v} (source : String) (chunk : Nat) :
    let size := max chunk 1
    let offsets := streamOffsets source chunk
    offsets.Pairwise (· < ·) ∧
    (∀ stop ∈ offsets, Text.IsBoundary source stop) ∧
    offsets.getLast? = some source.utf8ByteSize ∧
    streamOffsets "" chunk = [0] ∧
    (∃ pieces : List String, Text.cutAt source 0 offsets = pieces.map some ∧
      Text.InPieces size source pieces) ∧
    ∃ texts : List String, offsets.map (Text.slice? source 0) = texts.map some ∧
      texts.Pairwise StrictlyExtends ∧
      ∀ live : LiveDocument σ π,
        streamInto source chunk live = texts.foldlM showCounted ({}, live) := by
  intro size offsets
  refine ⟨pairwise_streamOffsets source chunk,
    fun stop member => isBoundary_of_mem_streamOffsets source chunk member,
    List.getLast?_concat, rfl, exists_inPieces_streamOffsets source chunk,
    streamTexts source chunk, map_slice?_streamOffsets source chunk, ?_, fun live => ?_⟩
  · exact (pairwise_streamTexts source chunk).imp strictlyExtends_iff.mp
  · exact streamPrefixes_eq_foldlM source offsets {} live

/-- The second character takes two bytes. -/
example : streamOffsets "aé b" 2 = [3, 5] := by decide

end MarkdownPager
