import MarkdownPager.Document.OfEvents
import MarkdownPager.Proofs.Boundary

/-!
# Trimmed spans

The span of a node lies inside the source, is not inverted, and does not end with a line end
(`trim_isTrimmed`).  A trimmed span is what trimming leaves alone, so trimming twice is trimming
once.  Trimming moves only the end, and only backwards over ASCII bytes: what begins and ends on
character boundaries still does (`isBoundary_trim_stop`).
-/

namespace MarkdownPager

/-- The bytes that end a line. -/
def isLineEnd (byte : UInt8) : Bool := byte == 10 || byte == 13

namespace EventContext

/-- A span inside `size` bytes that is not inverted and, when it is not empty, does not end with a
line end. -/
structure IsTrimmed (bytes : ByteArray) (span : Span) : Prop where
  ordered : span.start ≤ span.stop
  inside : span.stop ≤ bytes.size
  last : span.start < span.stop → ∀ byte ∈ bytes[span.stop - 1]?, isLineEnd byte = false

/-- What is not empty ends with a byte that is no line end. -/
theorem IsTrimmed.exists_last {bytes : ByteArray} {span : Span} (trimmed : IsTrimmed bytes span)
    (nonempty : span.start < span.stop) :
    ∃ byte, bytes[span.stop - 1]? = some byte ∧ byte ≠ 10 ∧ byte ≠ 13 := by
  have below : span.stop - 1 < bytes.size := by
    have := trimmed.inside
    omega
  have found : bytes[span.stop - 1]? = some bytes[span.stop - 1] := getElem?_pos bytes _ below
  have last := trimmed.last nonempty _ found
  rw [isLineEnd, Bool.or_eq_false_iff, beq_eq_false_iff_ne, beq_eq_false_iff_ne] at last
  exact ⟨_, found, last⟩

section TrimStop

variable {bytes : ByteArray} {start : Nat}

theorem trimStop_le : ∀ stop, trimStop bytes start stop ≤ stop
  | 0 => Nat.le_refl 0
  | stop + 1 => by
      rw [trimStop]
      split
      · exact Nat.le_succ_of_le (trimStop_le stop)
      · exact Nat.le_refl _

theorem le_trimStop : ∀ {stop}, start ≤ stop → start ≤ trimStop bytes start stop
  | 0, ordered => ordered
  | stop + 1, ordered => by
      rw [trimStop]
      split
      · rename_i ends
        rw [Bool.and_eq_true, decide_eq_true_eq] at ends
        exact le_trimStop ends.1
      · exact ordered

/-- What is cut off is line ends, one after the other. -/
theorem isLineEnd_of_trimStop_le : ∀ {stop place}, trimStop bytes start stop ≤ place →
    place < stop → ∃ byte, bytes[place]? = some byte ∧ isLineEnd byte = true
  | 0, place, _, below => absurd below (Nat.not_lt_zero place)
  | stop + 1, place, cut, below => by
      rw [trimStop] at cut
      split at cut
      · rename_i ends
        rcases Nat.eq_or_lt_of_le (Nat.le_of_lt_succ below) with rfl | further
        · rw [Bool.and_eq_true, Bool.or_eq_true, beq_iff_eq, beq_iff_eq] at ends
          rcases ends.2 with byte | byte
          · exact ⟨10, byte, rfl⟩
          · exact ⟨13, byte, rfl⟩
        · exact isLineEnd_of_trimStop_le cut further
      · omega

/-- No line end is left at the end. -/
theorem isLineEnd_trimStop : ∀ {stop}, start < trimStop bytes start stop →
    ∀ byte ∈ bytes[trimStop bytes start stop - 1]?, isLineEnd byte = false
  | 0, nonempty => absurd nonempty (Nat.not_lt_zero start)
  | stop + 1, nonempty => by
      rw [trimStop] at nonempty ⊢
      split at nonempty
      · rename_i ends
        rw [if_pos ends]
        exact isLineEnd_trimStop nonempty
      · rename_i ends
        rw [if_neg ends]
        intro byte found
        have ordered : decide (start ≤ stop) = true := decide_eq_true (Nat.le_of_lt_succ nonempty)
        have found : bytes[stop]? = some byte := found
        rw [ordered, Bool.true_and, found] at ends
        simpa [isLineEnd] using ends

theorem trimStop_eq_self {stop : Nat}
    (last : start < stop → ∀ byte ∈ bytes[stop - 1]?, isLineEnd byte = false) :
    trimStop bytes start stop = stop := by
  cases stop with
  | zero => rfl
  | succ stop =>
      rw [trimStop]
      refine if_neg fun ends => ?_
      rw [Bool.and_eq_true, Bool.or_eq_true, beq_iff_eq, beq_iff_eq, decide_eq_true_eq] at ends
      have last := last (Nat.lt_succ_of_le ends.1)
      rcases ends.2 with byte | byte
      · exact absurd (last 10 byte) (by decide)
      · exact absurd (last 13 byte) (by decide)

end TrimStop

variable (context : EventContext) (span : Span)

theorem trim_isTrimmed : IsTrimmed context.bytes (context.trim span) where
  ordered := le_trimStop (Nat.le_max_right _ _)
  inside := by
    have inside : max (min span.stop context.bytes.size) (min span.start context.bytes.size) ≤
        context.bytes.size := by omega
    exact Nat.le_trans (trimStop_le _) inside
  last := isLineEnd_trimStop

variable {context span}

theorem trim_start (inside : span.start ≤ context.bytes.size) :
    (context.trim span).start = span.start :=
  Nat.min_eq_left inside

/-- Inside the source, only the end is trimmed. -/
theorem trim_stop (ordered : span.start ≤ span.stop) (inside : span.stop ≤ context.bytes.size) :
    (context.trim span).stop = trimStop context.bytes span.start span.stop := by
  have start : min span.start context.bytes.size = span.start :=
    Nat.min_eq_left (Nat.le_trans ordered inside)
  have stop : max (min span.stop context.bytes.size) span.start = span.stop := by
    rw [Nat.min_eq_left inside, Nat.max_eq_left ordered]
  simp only [trim, start, stop]

theorem trim_stop_le (ordered : span.start ≤ span.stop) (inside : span.stop ≤ context.bytes.size) :
    (context.trim span).stop ≤ span.stop := by
  rw [trim_stop ordered inside]
  exact trimStop_le span.stop

/-- **Trimming leaves a trimmed span alone.** -/
theorem trim_eq_self (trimmed : IsTrimmed context.bytes span) : context.trim span = span := by
  obtain ⟨ordered, inside, last⟩ := trimmed
  have start := trim_start (Nat.le_trans ordered inside)
  have stop : (context.trim span).stop = span.stop := by
    rw [trim_stop ordered inside, trimStop_eq_self last]
  cases span
  exact congrArg₂ Span.mk start stop

theorem trim_trim (context : EventContext) (span : Span) :
    context.trim (context.trim span) = context.trim span :=
  trim_eq_self (trim_isTrimmed context span)

/-- **A span that ends on a character boundary is trimmed to one that does.** -/
theorem isBoundary_trim_stop {source : String} (firstId : Nat) (ordered : span.start ≤ span.stop)
    (boundary : Text.IsBoundary source span.stop) :
    Text.IsBoundary source ((ofSource firstId source).trim span).stop := by
  have inside : span.stop ≤ (ofSource firstId source).bytes.size := boundary.le_utf8ByteSize
  rw [trim_stop ordered inside]
  rcases Nat.eq_or_lt_of_le (trimStop_le span.stop) with whole | shorter
  · rw [whole]
    exact boundary
  · -- The byte behind the new end was cut off, so it is a line end and begins a character.
    obtain ⟨byte, found, ends⟩ := isLineEnd_of_trimStop_le (Nat.le_refl _) shorter
    refine Text.isBoundary_of_byteAt? found ?_
    rw [isLineEnd, Bool.or_eq_true, beq_iff_eq, beq_iff_eq] at ends
    rcases ends with rfl | rfl <;> rfl

end EventContext

end MarkdownPager
