import MarkdownPager.Grammar.Catalog
import MarkdownPager.Highlight.Code
import MarkdownPager.Proofs.Languages
import MarkdownPager.Proofs.Lines
import MarkdownPager.Proofs.Session

/-!
# Highlighting loses no text

A parser cuts a line, with its line feed, at the offsets where it changes the scope stack.  In
whatever order the offsets come, the pieces lie one behind the other and reach the end of the line;
the session takes the line feed off again.  So the texts of the runs of a line are the line, and
the lines with line feeds between them are the code.

The one thing asked of a parser is that it reports no offset inside a character or behind the line.

* `ScopeParser.tiles_replay` — replaying scope changes leaves no gap.
* `ScopeParser.partition_tokenizeLine` — the tokens of a line cut it into pieces.
* `highlightCode_keeps_text` — the runs give the code back.
-/

namespace MarkdownPager

universe u

open Text (IsBoundary)

namespace Token

/-! ## Tokens without a gap -/

/-- The tokens cover the bytes from `start` up to `stop`, one behind the other. -/
def Tiles : Nat → Nat → List Token → Prop
  | start, stop, [] => start = stop
  | start, stop, token :: rest =>
    token.start = start ∧ start < token.stop ∧ Tiles token.stop stop rest

/-- Cutting tokens off at the end of a line leaves no gap. -/
theorem Tiles.clip (length : Nat) {stop : Nat} {tokens : List Token} :
    ∀ {start : Nat}, Tiles start stop tokens →
      Tiles (min start length) (min stop length) (clip length tokens) := by
  induction tokens with
  | nil =>
      rintro start rfl
      rfl
  | cons token rest ih =>
      rintro start ⟨rfl, nonempty, tiles⟩
      have more := ih tiles
      by_cases left : min token.start length < min token.stop length
      · have kept : Token.clip length (token :: rest) =
            clamp length token :: Token.clip length rest := by
          simp [Token.clip, clamp, left]
        rw [kept]
        exact ⟨rfl, left, more⟩
      · -- Nothing is left of a token that begins behind the line.
        have gone : Token.clip length (token :: rest) = Token.clip length rest := by
          simp [Token.clip, clamp, left]
        have behind : min token.start length = min token.stop length := by omega
        rw [gone, behind]
        exact more

/-- The texts of tokens without a gap make the slice that they cover. -/
theorem Tiles.slice? {line : String} {stop : Nat} {tokens : List Token} :
    ∀ {start : Nat}, Tiles start stop tokens → IsBoundary line start →
      (∀ token ∈ tokens, IsBoundary line token.stop) → start ≤ stop ∧ IsBoundary line stop ∧
      Text.slice? line start stop = some (String.join (tokens.map (·.text line))) := by
  induction tokens with
  | nil =>
      rintro start rfl boundary -
      refine ⟨Nat.le_refl _, boundary, ?_⟩
      rw [Text.slice?_self boundary, List.map_nil, String.join_nil]
  | cons token rest ih =>
      rintro start ⟨rfl, nonempty, tiles⟩ first boundaries
      have second := boundaries token List.mem_cons_self
      obtain ⟨le_stop, last, more⟩ :=
        ih tiles second fun token member => boundaries token (List.mem_cons_of_mem _ member)
      refine ⟨Nat.le_trans (Nat.le_of_lt nonempty) le_stop, last, ?_⟩
      rw [Text.slice?_append (Nat.le_of_lt nonempty) le_stop first second last, more,
        Option.getD_some, List.map_cons, String.join_cons, text]

/-- The tokens cut a line into pieces, between characters only. -/
structure Partition (line : String) (tokens : List Token) : Prop where
  tiles : Tiles 0 line.utf8ByteSize tokens
  boundary : ∀ token ∈ tokens, IsBoundary line token.stop

/-- The texts of the pieces are the line. -/
theorem Partition.join_text {line : String} {tokens : List Token}
    (partition : Partition line tokens) : String.join (tokens.map (·.text line)) = line := by
  obtain ⟨-, -, slice⟩ := partition.tiles.slice? (Text.isBoundary_zero line) partition.boundary
  rw [Text.slice?_whole] at slice
  exact (Option.some.inj slice).symm

theorem partition_passthrough (line : String) : Partition line (passthrough line) := by
  unfold passthrough
  split
  · rename_i empty
    exact ⟨empty.symm, by simp⟩
  · rename_i nonempty
    refine ⟨⟨rfl, Nat.pos_of_ne_zero nonempty, rfl⟩, fun token member => ?_⟩
    rw [List.mem_singleton.mp member]
    exact Text.isBoundary_utf8ByteSize line

end Token

namespace ScopeParser

variable {σ : Type u} {parser : ScopeParser σ}

/-! ## Replaying scope changes -/

/-- **One change.**  It applies to the stack.  If the line goes on up to it, the piece before it is
cut off, and the rest is replayed with the changed stack. -/
theorem exists_of_replay_cons {length cursor : Nat} {edit : Nat × ScopeOp}
    {edits : List (Nat × ScopeOp)} {stack final : ScopeStack} {tokens : List Token}
    (replayed : parser.replay length (edit :: edits) cursor stack = .ok (tokens, final)) :
    ∃ next, parser.apply stack edit.2 = .ok next ∧
      (cursor < edit.1 ∧ (∃ rest, tokens = ⟨cursor, edit.1, stack.scopes⟩ :: rest ∧
          parser.replay length edits edit.1 next = .ok (rest, final)) ∨
        edit.1 ≤ cursor ∧ parser.replay length edits cursor next = .ok (tokens, final)) := by
  rw [replay] at replayed
  cases changed : parser.apply stack edit.2 with
  | error reason => simp [changed] at replayed
  | ok next =>
      simp only [changed] at replayed
      refine ⟨next, rfl, ?_⟩
      split at replayed
      · rename_i ahead
        cases rest : parser.replay length edits edit.1 next with
        | error failure => simp [rest, Except.map] at replayed
        | ok answer =>
            simp only [rest, Except.map, Except.ok.injEq, Prod.mk.injEq] at replayed
            obtain ⟨rfl, rfl⟩ := replayed
            exact .inl ⟨ahead, answer.1, rfl, rfl⟩
      · rename_i behind
        exact .inr ⟨Nat.le_of_not_lt behind, replayed⟩

/-- Replaying scope changes cuts the rest of a line into pieces, whatever the order of the
changes. -/
theorem tiles_replay {length : Nat} (edits : List (Nat × ScopeOp)) :
    ∀ {cursor : Nat} {stack final : ScopeStack} {tokens : List Token},
      parser.replay length edits cursor stack = .ok (tokens, final) → cursor ≤ length →
      (∀ edit ∈ edits, edit.1 ≤ length) → Token.Tiles cursor length tokens := by
  induction edits with
  | nil =>
      intro cursor stack final tokens replayed cursor_le _
      rw [replay, Except.ok.injEq, Prod.mk.injEq] at replayed
      rw [← replayed.1]
      by_cases more : cursor < length
      · rw [if_pos more]
        exact ⟨rfl, more, rfl⟩
      · rw [if_neg more]
        exact Nat.le_antisymm cursor_le (Nat.le_of_not_lt more)
  | cons edit edits ih =>
      intro cursor stack final tokens replayed cursor_le offsets_le
      obtain ⟨first, later⟩ := List.forall_mem_cons.mp offsets_le
      obtain ⟨next, -, ⟨ahead, rest, rfl, more⟩ | ⟨-, more⟩⟩ := exists_of_replay_cons replayed
      · exact ⟨rfl, ahead, ih more first later⟩
      · exact ih more cursor_le later

/-- A piece ends where the stack was changed, or at the end of the line. -/
theorem stop_of_mem_replay {length : Nat} (edits : List (Nat × ScopeOp)) :
    ∀ {cursor : Nat} {stack final : ScopeStack} {tokens : List Token},
      parser.replay length edits cursor stack = .ok (tokens, final) → ∀ token ∈ tokens,
      token.stop = length ∨ ∃ edit ∈ edits, token.stop = edit.1 := by
  induction edits with
  | nil =>
      intro cursor stack final tokens replayed token member
      rw [replay, Except.ok.injEq, Prod.mk.injEq] at replayed
      rw [← replayed.1] at member
      split at member
      · exact .inl (by rw [List.mem_singleton.mp member])
      · simp at member
  | cons edit edits ih =>
      intro cursor stack final tokens replayed token member
      have earlier : (token.stop = length ∨ ∃ edit ∈ edits, token.stop = edit.1) →
          token.stop = length ∨ ∃ among ∈ edit :: edits, token.stop = among.1 :=
        Or.imp_right fun ⟨among, member, stop⟩ => ⟨among, List.mem_cons_of_mem _ member, stop⟩
      obtain ⟨next, -, ⟨-, rest, rfl, more⟩ | ⟨-, more⟩⟩ := exists_of_replay_cons replayed
      · rcases List.mem_cons.mp member with rfl | member
        · exact .inr ⟨edit, List.mem_cons_self, rfl⟩
        · exact earlier (ih more token member)
      · exact earlier (ih more token member)

/-! ## Lines and code -/

/-- What the grammar of a parser gives, when it succeeds, cuts the line with its line feed. -/
theorem tiles_grammar (sound : parser.OnBoundaries) {line : String}
    {state : Option (ReplayState σ)} {tokens : List Token} {next : ReplayState σ}
    (read : parser.grammar line state = .ok (tokens, next)) :
    Token.Tiles 0 (line.utf8ByteSize + 1) tokens ∧
      ∀ token ∈ tokens, IsBoundary (line ++ "\n") token.stop := by
  have size : (line ++ "\n").utf8ByteSize = line.utf8ByteSize + 1 := String.utf8ByteSize_append
  unfold grammar at read
  dsimp only at read
  split at read
  · simp at read
  · rename_i edits parse parsed
    have boundaries := sound _ _ _ _ parsed
    split at read
    · simp at read
    · rename_i replayed tokens' scopes replay_eq
      simp only [Except.ok.injEq, Prod.mk.injEq] at read
      rw [← read.1]
      refine ⟨tiles_replay edits replay_eq (Nat.zero_le _) fun edit member => ?_,
        fun token member => ?_⟩
      · rw [← size]
        exact (boundaries edit member).le_utf8ByteSize
      · rcases stop_of_mem_replay edits replay_eq token member with stop | ⟨edit, among, stop⟩
        · rw [stop, ← size]
          exact Text.isBoundary_utf8ByteSize _
        · rw [stop]
          exact boundaries edit among

/-- **The tokens of a line cut it into pieces**, whether or not the parser could read it. -/
theorem partition_tokenizeLine {parser : Option (ScopeParser σ)}
    (sound : ∀ known ∈ parser, known.OnBoundaries) {session : Session (ReplayState σ)}
    (reads : session.grammar = parser.map (·.grammar)) (line : String) :
    Token.Partition line (session.tokenizeLine line).1 := by
  unfold Session.tokenizeLine
  rw [reads]
  cases parser with
  | none => exact Token.partition_passthrough line
  | some known =>
      dsimp only [Option.map_some]
      cases read : known.grammar line session.state with
      | error failure => exact Token.partition_passthrough line
      | ok answer =>
          obtain ⟨tiles, boundaries⟩ := tiles_grammar (sound known rfl) read
          refine ⟨?_, fun token member => ?_⟩
          · simpa using tiles.clip line.utf8ByteSize
          · obtain ⟨clamped, -⟩ := List.mem_filter.mp member
            obtain ⟨raw, among, rfl⟩ := List.mem_map.mp clamped
            exact Text.isBoundary_of_append (boundaries raw among)

/-- Every line of a text comes with tokens that cut it into pieces. -/
theorem partition_of_mem_zip {parser : Option (ScopeParser σ)}
    (sound : ∀ known ∈ parser, known.OnBoundaries) (code : String) :
    ∀ pair ∈ (Text.lines code).zip (tokenizeDocument code (parser.map (·.grammar))),
      Token.Partition pair.1 pair.2 := by
  intro pair member
  obtain ⟨i, at_i⟩ := List.mem_iff_getElem?.mp member
  obtain ⟨line_at, tokens_at⟩ := List.getElem?_zip_eq_some.mp at_i
  rw [tokenizeDocument, Session.getElem?_tokenizeLines, line_at, Option.map_some] at tokens_at
  rw [← Option.some.inj tokens_at]
  exact partition_tokenizeLine sound (Session.grammar_after _ _) pair.1

end ScopeParser

/-- The texts of the runs of each line. -/
def runTexts (entries : List (List StyledRun)) : List String :=
  entries.map fun runs => String.join (runs.map (·.text))

/-- The runs of a line have the texts of its tokens. -/
theorem map_text_styleTokens (rules : ThemeRules) (line : String) (tokens : List Token) :
    (styleTokens rules line tokens).map (·.text) = tokens.map (·.text line) := by
  rw [styleTokens, List.map_map]
  rfl

/-- The texts of the runs of each line are the line. -/
theorem runTexts_highlightCode {σ : Type u} (code : String) {parser : Option (ScopeParser σ)}
    (rules : ThemeRules) (sound : ∀ known ∈ parser, known.OnBoundaries) :
    runTexts (highlightCode code (parser.map (·.grammar)) rules) = Text.lines code := by
  have pieces := ScopeParser.partition_of_mem_zip sound code
  have lengths : (Text.lines code).length ≤
      (tokenizeDocument code (parser.map (·.grammar))).length := by
    rw [tokenizeDocument, Session.length_tokenizeLines]
  calc runTexts (highlightCode code (parser.map (·.grammar)) rules)
      = ((Text.lines code).zip (tokenizeDocument code (parser.map (·.grammar)))).map
          fun pair => String.join (pair.2.map (·.text pair.1)) := by
        simp only [runTexts, highlightCode, List.map_map, Function.comp_def,
          map_text_styleTokens]
    _ = ((Text.lines code).zip (tokenizeDocument code (parser.map (·.grammar)))).map Prod.fst :=
        List.map_congr_left fun pair member => (pieces pair member).join_text
    _ = Text.lines code := List.map_fst_zip lengths

/-- **Highlighting loses no text.**  Code has one entry for each of its lines, the texts of the
entry are the line, and with line feeds between them they are the code.  This holds without a
grammar as well as with any parser that keeps to character boundaries, wherever that fails. -/
theorem highlightCode_keeps_text {σ : Type u} (code : String) (parser : Option (ScopeParser σ))
    (rules : ThemeRules) (sound : ∀ known ∈ parser, known.OnBoundaries) :
    let entries := highlightCode code (parser.map (·.grammar)) rules
    entries.length = code.toList.count '\n' + 1 ∧ runTexts entries = Text.lines code ∧
      "\n".intercalate (runTexts entries) = code := by
  intro entries
  have same : runTexts entries = Text.lines code := runTexts_highlightCode code rules sound
  refine ⟨?_, same, ?_⟩
  · rw [← Text.length_lines, ← same, runTexts, List.length_map]
  · rw [same, Text.intercalate_lines]

/-- JSON that breaks off in a string, with a carriage return, an empty line and a comment. -/
theorem highlightCode_keeps_text_broken_json :
    (∀ known ∈ some Language.json.parser, known.OnBoundaries) ∧
      let entries := highlightCode "[\"é\r\n\n/* 1" (some Language.json.grammar)
        (fun _ => [{ foreground := "#b58900" }])
      entries.length = 3 ∧ runTexts entries = ["[\"é\r", "", "/* 1"] ∧
        "\n".intercalate (runTexts entries) = "[\"é\r\n\n/* 1" := by
  have sound : ∀ known ∈ some Language.json.parser, known.OnBoundaries := by
    rintro known ⟨⟩
    exact Language.parser_onBoundaries Language.json
  exact ⟨sound, highlightCode_keeps_text "[\"é\r\n\n/* 1" (some Language.json.parser)
    (fun _ => [{ foreground := "#b58900" }]) sound⟩

/-- Code in a language of the catalog loses no text. -/
theorem intercalate_runTexts_language (code info : String) (rules : ThemeRules) :
    let parser := (Catalog.language? info).map (·.parser)
    "\n".intercalate (runTexts (highlightCode code (parser.map (·.grammar)) rules)) = code := by
  intro parser
  have sound : ∀ known ∈ parser, known.OnBoundaries := by
    intro known member
    obtain ⟨language, -, rfl⟩ := Option.map_eq_some_iff.mp member
    exact Language.parser_onBoundaries language
  rw [runTexts_highlightCode code rules sound, Text.intercalate_lines]

end MarkdownPager
