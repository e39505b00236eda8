import MarkdownPager.Live

/-!
# Streamed texts

A text that arrives in chunks is shown after each of them.  The chunks are counted in characters,
and the offsets behind them in bytes.
-/

namespace MarkdownPager

universe u v

/-- The offsets behind each full chunk that something follows, `wait` characters before the end of
the current one. -/
def chunkEnds (chunk : Nat) : Nat → Nat → List Char → List Nat
  | _, _, [] => []
  | offset, 0, c :: cs => offset :: chunkEnds chunk (offset + c.utf8Size) (chunk - 1) cs
  | offset, wait + 1, c :: cs => chunkEnds chunk (offset + c.utf8Size) wait cs

/-- The offsets behind the chunks of a text.  A chunk has at least one character, and the last one
ends with the text. -/
def streamOffsets (source : String) (chunk : Nat) : List Nat :=
  let chunk := max chunk 1
  chunkEnds chunk 0 chunk source.toList ++ [source.utf8ByteSize]

/-- What showing a streamed text took. -/
structure StreamStats where
  updates : Nat := 0
  created : Nat := 0
  reused : Nat := 0
  /-- The number of updates that could keep everything before the boundary. -/
  fastPath : Nat := 0
  deriving DecidableEq, Repr

namespace StreamStats

/-- Counts an update. -/
def record (stats : StreamStats) (applied : Applied) : StreamStats where
  updates := stats.updates + 1
  created := stats.created + applied.created
  reused := stats.reused + applied.reused
  fastPath := stats.fastPath + match applied.strategy with
    | .safeBoundary _ => 1
    | _ => 0

end StreamStats

variable {σ : Type u} {π : Type v}

/-- Shows the texts up to some offsets, one after the other. -/
def streamPrefixes (source : String) :
    List Nat → StreamStats → LiveDocument σ π → Except Error (StreamStats × LiveDocument σ π)
  | [], stats, live => .ok (stats, live)
  | stop :: stops, stats, live =>
    match live.update ((Text.slice? source 0 stop).getD "") with
    | .error failure => .error failure
    | .ok (applied, live) => streamPrefixes source stops (stats.record applied) live

/-- Shows a text chunk by chunk. -/
def streamInto (source : String) (chunk : Nat) (live : LiveDocument σ π) :
    Except Error (StreamStats × LiveDocument σ π) :=
  streamPrefixes source (streamOffsets source chunk) {} live

end MarkdownPager
