import MarkdownPager.Proofs.Session

/-!
# Lines that a grammar cannot read

A grammar may fail on any line, and whether it fails may hang on the state that the lines before
have left.  A session then shows the line without scopes and keeps its state, so the lines behind it
are read as if it had not been there.

* `Session.tokenizeLine_of_not_reads` — a line that cannot be read changes nothing.
* `Session.tokenizeLines_readable` — so a run over the other lines alone goes the same way.
* `Session.unreadable_lines_leave_no_trace` — both runs side by side, for a new session.
-/

namespace MarkdownPager

universe u v

/-- The entries of a list that have a mark. -/
def marked {α : Type v} (marks : List Bool) (entries : List α) : List α :=
  ((entries.zip marks).filter (·.2)).map (·.1)

section Marked

variable {α : Type v}

@[simp] theorem marked_cons_true (marks : List Bool) (entry : α) (entries : List α) :
    marked (true :: marks) (entry :: entries) = entry :: marked marks entries := rfl

@[simp] theorem marked_cons_false (marks : List Bool) (entry : α) (entries : List α) :
    marked (false :: marks) (entry :: entries) = marked marks entries := rfl

end Marked

namespace Session

variable {σ : Type u}

/-- Whether the next line can be read.  Without a grammar nothing can fail. -/
def reads (session : Session σ) (line : String) : Bool :=
  match session.grammar with
  | none => true
  | some grammar => (grammar line session.state).isOk

/-- Which of the lines of a run can be read, each in the state that the lines before it leave. -/
def readable (session : Session σ) : List String → List Bool
  | [] => []
  | line :: rest => session.reads line :: (session.tokenizeLine line).2.readable rest

/-- The lines of a run that can be read. -/
def readableLines (session : Session σ) (lines : List String) : List String :=
  marked (session.readable lines) lines

/-! ## One line -/

/-- **A line that cannot be read changes nothing.** -/
theorem tokenizeLine_of_not_reads {session : Session σ} {line : String}
    (fails : session.reads line = false) : (session.tokenizeLine line).2 = session := by
  unfold reads at fails
  unfold tokenizeLine
  split
  · rfl
  · rename_i grammar reader
    simp only [reader] at fails
    split
    · rename_i answer
      simp [answer, Except.isOk, Except.toBool] at fails
    · rfl

/-- Behind a line there is a state if there was one before it, or if the line could be read. -/
theorem isSome_state_tokenizeLine {session : Session σ} {grammar : Grammar σ}
    (reader : session.grammar = some grammar) (line : String) :
    (session.tokenizeLine line).2.state.isSome = (session.state.isSome || session.reads line) := by
  simp only [tokenizeLine, reads, reader]
  cases grammar line session.state with
  | error failure => simp [Except.isOk, Except.toBool]
  | ok answer => simp [Except.isOk, Except.toBool]

/-! ## A run -/

@[simp] theorem readableLines_nil (session : Session σ) : session.readableLines [] = [] := rfl

theorem readableLines_cons_of_reads {session : Session σ} {line : String} (lines : List String)
    (succeeds : session.reads line = true) :
    session.readableLines (line :: lines) =
      line :: (session.tokenizeLine line).2.readableLines lines := by
  simp only [readableLines, readable, succeeds, marked_cons_true]

theorem readableLines_cons_of_not_reads {session : Session σ} {line : String} (lines : List String)
    (fails : session.reads line = false) :
    session.readableLines (line :: lines) = session.readableLines lines := by
  simp only [readableLines, readable, fails, marked_cons_false, tokenizeLine_of_not_reads fails]

/-- **The other lines alone.**  All of them can be read, their tokens are those that they have in
the whole run, and the session after them is the same. -/
theorem tokenizeLines_readable (lines : List String) :
    ∀ session : Session σ,
      (∀ succeeds ∈ session.readable (session.readableLines lines), succeeds = true) ∧
      (session.tokenizeLines (session.readableLines lines)).1 =
        marked (session.readable lines) (session.tokenizeLines lines).1 ∧
      session.after (session.readableLines lines) = session.after lines := by
  induction lines with
  | nil => exact fun session => ⟨by simp [readable], rfl, rfl⟩
  | cons line lines ih =>
      intro session
      cases succeeds : session.reads line with
      | false =>
          -- The session is the same behind the line, so the run over the rest starts from it.
          have same := tokenizeLine_of_not_reads succeeds
          obtain ⟨allRead, tokens, rest⟩ := ih session
          rw [readableLines_cons_of_not_reads lines succeeds, after_cons, same]
          refine ⟨allRead, ?_, rest⟩
          simp only [readable, tokenizeLines, succeeds, marked_cons_false, same]
          exact tokens
      | true =>
          obtain ⟨allRead, tokens, rest⟩ := ih (session.tokenizeLine line).2
          rw [readableLines_cons_of_reads lines succeeds, after_cons, after_cons]
          refine ⟨?_, ?_, rest⟩
          · rw [readable, List.forall_mem_cons]
            exact ⟨succeeds, allRead⟩
          · simp only [readable, tokenizeLines, succeeds, marked_cons_true]
            rw [tokens]

/-- **When a session has a state**: when it had one at first, or has read a line since. -/
theorem isSome_state_after {grammar : Grammar σ} (lines : List String) :
    ∀ {session : Session σ}, session.grammar = some grammar →
      (session.after lines).state.isSome =
        (session.state.isSome || (session.readable lines).any id) := by
  induction lines with
  | nil => exact fun _ => by simp [readable]
  | cons line lines ih =>
      intro session reader
      have next := (session.grammar_tokenizeLine line).trans reader
      rw [after_cons, ih next, isSome_state_tokenizeLine reader, readable, List.any_cons,
        Bool.or_assoc, id_eq]

/-- **Lines that cannot be read leave no trace.**  Without them a new session reads every line, gives
to each the tokens that it has in the run over all lines, and ends in the same state; there is none
if and only if no line can be read. -/
theorem unreadable_lines_leave_no_trace (grammar : Grammar σ) (lines : List String) :
    let session : Session σ := ⟨some grammar, none⟩
    let kept := session.readableLines lines
    (∀ succeeds ∈ session.readable kept, succeeds = true) ∧
    (session.tokenizeLines kept).1 =
      marked (session.readable lines) (session.tokenizeLines lines).1 ∧
    (session.after kept).state = (session.after lines).state ∧
    ((session.after lines).state = none ↔
      ∀ succeeds ∈ session.readable lines, succeeds = false) := by
  intro session kept
  obtain ⟨allRead, tokens, same⟩ := tokenizeLines_readable lines session
  have held : (session.after lines).state.isSome = (session.readable lines).any id :=
    isSome_state_after lines rfl
  refine ⟨allRead, tokens, congrArg Session.state same, ?_⟩
  rw [← Option.isNone_iff_eq_none, ← Option.not_isSome, held, Bool.not_eq_true', List.any_eq_false]
  simp

end Session

end MarkdownPager
