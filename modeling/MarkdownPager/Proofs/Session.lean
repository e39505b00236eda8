import Mathlib.Data.List.Basic
import MarkdownPager.Highlight.Token

/-!
# What a session makes of a grammar

A grammar may answer with anything: tokens that overlap, stand in any order, end before they begin
or lie behind the line.  What a session passes on lies in the line, and at every byte of the line
it has the scope stacks that the grammar gave there, in the same order.

* `Token.stacksAt_clip` — cutting tokens off at the end of a line changes no byte of the line.
* `Session.getElem?_tokenizeLines` — the tokens of a line are those that the session left by the
  lines before it gives.
* `tokenizeDocument_keeps_coverage` — both together, for every grammar and every text.
-/

namespace MarkdownPager

universe u

namespace Token

/-- Whether a byte lies in the token. -/
def covers (token : Token) (byte : Nat) : Bool :=
  token.start ≤ byte && byte < token.stop

/-- The scope stacks that tokens give to a byte, in the order of the tokens. -/
def stacksAt (byte : Nat) (tokens : List Token) : List (List Scope) :=
  (tokens.filter (·.covers byte)).map (·.scopes)

/-- Moving the ends of a token into a line changes none of its bytes in the line. -/
theorem covers_clamp {length byte : Nat} (inside : byte < length) (token : Token) :
    (clamp length token).covers byte = token.covers byte := by
  have first : min token.start length ≤ byte ↔ token.start ≤ byte := by omega
  have last : byte < min token.stop length ↔ byte < token.stop := by omega
  simp only [covers, clamp, first, last]

/-- A token that covers a byte is not empty. -/
theorem start_lt_stop_of_covers {token : Token} {byte : Nat} (covered : token.covers byte) :
    token.start < token.stop := by
  rw [covers, Bool.and_eq_true, decide_eq_true_eq, decide_eq_true_eq] at covered
  exact Nat.lt_of_le_of_lt covered.1 covered.2

/-- **Clipping changes no byte of the line.** -/
theorem stacksAt_clip {length byte : Nat} (inside : byte < length) (tokens : List Token) :
    stacksAt byte (clip length tokens) = stacksAt byte tokens := by
  have dropped : ∀ token : Token,
      (token.covers byte && decide (token.start < token.stop)) = token.covers byte := by
    intro token
    by_cases covered : token.covers byte
    · simp [start_lt_stop_of_covers covered]
    · simp [covered]
  have clamped : ((·.covers byte) ∘ clamp length : Token → Bool) = (·.covers byte) :=
    funext (covers_clamp inside)
  calc stacksAt byte (clip length tokens)
      = ((tokens.map (clamp length)).filter (·.covers byte)).map (·.scopes) := by
        rw [stacksAt, clip, List.filter_filter]
        simp only [dropped]
    _ = ((tokens.filter (·.covers byte)).map (clamp length)).map (·.scopes) := by
        rw [List.filter_map, clamped]
    _ = stacksAt byte tokens := by
        rw [List.map_map]
        rfl

/-- What clipping leaves is not empty and ends in the line. -/
theorem inside_of_mem_clip {length : Nat} {tokens : List Token} {token : Token}
    (member : token ∈ clip length tokens) : token.start < token.stop ∧ token.stop ≤ length := by
  obtain ⟨clamped, nonempty⟩ := List.mem_filter.mp member
  obtain ⟨raw, -, rfl⟩ := List.mem_map.mp clamped
  exact ⟨of_decide_eq_true nonempty, Nat.min_le_right _ _⟩

theorem passthrough_eq (line : String) :
    passthrough line = if line = "" then [] else [⟨0, line.utf8ByteSize, []⟩] := by
  rw [passthrough]
  simp only [String.utf8ByteSize_eq_zero_iff]

theorem inside_of_mem_passthrough {line : String} {token : Token}
    (member : token ∈ passthrough line) :
    token.start < token.stop ∧ token.stop ≤ line.utf8ByteSize := by
  rw [passthrough] at member
  split at member
  · simp at member
  · rename_i nonempty
    rw [List.mem_singleton.mp member]
    exact ⟨Nat.pos_of_ne_zero nonempty, Nat.le_refl _⟩

end Token

namespace Session

variable {σ : Type u}

/-- The session after lines. -/
def after (session : Session σ) (lines : List String) : Session σ :=
  (session.tokenizeLines lines).2

@[simp] theorem after_nil (session : Session σ) : session.after [] = session := rfl

@[simp] theorem after_cons (session : Session σ) (line : String) (lines : List String) :
    session.after (line :: lines) = (session.tokenizeLine line).2.after lines := rfl

/-- A session keeps its grammar. -/
@[simp] theorem grammar_tokenizeLine (session : Session σ) (line : String) :
    (session.tokenizeLine line).2.grammar = session.grammar := by
  unfold tokenizeLine
  split
  · rfl
  · split <;> rfl

@[simp] theorem grammar_after (lines : List String) :
    ∀ session : Session σ, (session.after lines).grammar = session.grammar := by
  induction lines with
  | nil => exact fun _ => rfl
  | cons line lines ih =>
      intro session
      rw [after_cons, ih, grammar_tokenizeLine]

@[simp] theorem length_tokenizeLines (lines : List String) :
    ∀ session : Session σ, (session.tokenizeLines lines).1.length = lines.length := by
  induction lines with
  | nil => exact fun _ => rfl
  | cons line lines ih =>
      intro session
      simp only [tokenizeLines, List.length_cons, ih]

/-- **Line by line.**  The tokens of a line are those that the session left by the lines before it
gives. -/
theorem getElem?_tokenizeLines (lines : List String) :
    ∀ (session : Session σ) (i : Nat), (session.tokenizeLines lines).1[i]? =
      lines[i]?.map fun line => ((session.after (lines.take i)).tokenizeLine line).1 := by
  induction lines with
  | nil =>
      intro session i
      rfl
  | cons line lines ih =>
      intro session i
      cases i with
      | zero => rfl
      | succ i =>
          simp only [tokenizeLines, List.getElem?_cons_succ, List.take_succ_cons, after_cons]
          exact ih _ i

/-- Tokens of a line lie in the line, whatever the grammar gave. -/
theorem inside_of_mem_tokenizeLine {session : Session σ} {line : String} {token : Token}
    (member : token ∈ (session.tokenizeLine line).1) :
    token.start < token.stop ∧ token.stop ≤ line.utf8ByteSize := by
  unfold tokenizeLine at member
  split at member
  · exact Token.inside_of_mem_passthrough member
  · split at member
    · exact Token.inside_of_mem_clip member
    · exact Token.inside_of_mem_passthrough member

end Session

/-- The state in which a grammar reads line `i` of a text. -/
def stateBefore {σ : Type u} (grammar : Option (Grammar σ)) (text : String) (i : Nat) : Option σ :=
  ((Session.mk grammar none).after ((Text.lines text).take i)).state

/-- What a grammar answers on line `i` of a text; nothing if there is no grammar. -/
def answerOn {σ : Type u} (grammar : Option (Grammar σ)) (text : String) (i : Nat) (line : String) :
    Option (Except Error (List Token × σ)) :=
  grammar.map fun read => read line (stateBefore grammar text i)

/-- **A session tames every grammar.**  There is one list of tokens for each line.  All of them lie
in their line; where the grammar could read the line, every byte has the scope stacks that the
grammar gave to it; everywhere else the line is one token without scopes. -/
theorem tokenizeDocument_keeps_coverage {σ : Type u} (text : String)
    (grammar : Option (Grammar σ)) :
    (tokenizeDocument text grammar).length = (Text.lines text).length ∧
    ∀ (i : Nat) (line : String), (Text.lines text)[i]? = some line →
      ∃ tokens, (tokenizeDocument text grammar)[i]? = some tokens ∧
        (∀ token ∈ tokens, token.start < token.stop ∧ token.stop ≤ line.utf8ByteSize) ∧
        match answerOn grammar text i line with
        | some (.ok (raw, _)) => ∀ byte < line.utf8ByteSize,
            Token.stacksAt byte tokens = Token.stacksAt byte raw
        | _ => tokens = if line = "" then [] else [⟨0, line.utf8ByteSize, []⟩] := by
  refine ⟨Session.length_tokenizeLines _ _, fun i line at_i => ?_⟩
  have step := Session.getElem?_tokenizeLines (Text.lines text) (Session.mk grammar none) i
  rw [at_i, Option.map_some] at step
  refine ⟨_, step, fun token => Session.inside_of_mem_tokenizeLine, ?_⟩
  have reads : ((Session.mk grammar none).after ((Text.lines text).take i)).grammar = grammar :=
    Session.grammar_after _ _
  cases grammar with
  | none =>
      simp only [answerOn, Session.tokenizeLine, reads, Option.map_none]
      exact Token.passthrough_eq line
  | some read =>
      simp only [answerOn, stateBefore, Session.tokenizeLine, reads, Option.map_some]
      cases read line _ with
      | error failure => exact Token.passthrough_eq line
      | ok answer => exact fun byte inside => Token.stacksAt_clip inside answer.1

end MarkdownPager
