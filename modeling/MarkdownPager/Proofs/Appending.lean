import MarkdownPager.Highlight.Code
import MarkdownPager.Proofs.Lines
import MarkdownPager.Proofs.Session

/-!
# Code that grows at its end

A session reads lines from the first to the last, and the lines that it has read are all that it
knows.  So it makes no difference to a line what comes after it.  A text that is written on after a
line feed has the lines that it had, whether or not the last of them is empty, and then those of
what was written (`Text.lines_append_newline`).  Reading the former leaves a session, and this
session reads the latter (`Session.tokenizeLines_append`).

Styles are given to the tokens of one line at a time, so the same holds of highlighted code.
-/

namespace MarkdownPager

universe u

/-- **Lines are not joined over a line feed**, also if there is nothing before it or behind it. -/
theorem Text.lines_append_newline (a b : String) :
    lines (a ++ "\n" ++ b) = lines a ++ lines b := by
  have chars : (a ++ "\n" ++ b).toList = a.toList ++ '\n' :: b.toList := by
    rw [String.toList_append, String.toList_append, List.append_assoc]
    rfl
  rw [lines_eq_splitOn, lines_eq_splitOn, lines_eq_splitOn, chars, List.splitOn_append_cons_self,
    List.map_append]

namespace Session

variable {σ : Type u}

/-- **A session can be broken off and taken up again.**  Lines that come after others are read by
the session that the others left. -/
theorem tokenizeLines_append (before behind : List String) : ∀ session : Session σ,
    (session.tokenizeLines (before ++ behind)).1 =
      (session.tokenizeLines before).1 ++ ((session.after before).tokenizeLines behind).1 := by
  induction before with
  | nil => exact fun _ => rfl
  | cons line before ih =>
      intro session
      simp only [List.cons_append, tokenizeLines, after_cons, ih]

end Session

/-- Lines in the styles of their tokens. -/
def styledLines (rules : ThemeRules) (lines : List String) (tokens : List (List Token)) :
    List (List StyledRun) :=
  List.zipWith (styleTokens rules) lines tokens

section Highlight

variable {σ : Type u} (grammar : Option (Grammar σ)) (rules : ThemeRules)

/-- The state that the lines of a text leave. -/
def stateAfter (text : String) : Option σ :=
  ((Session.mk grammar none).after (Text.lines text)).state

/-- All that is left of the lines that were read is a state. -/
theorem after_lines (text : String) :
    (Session.mk grammar none).after (Text.lines text) = ⟨grammar, stateAfter grammar text⟩ := by
  have reads : ((Session.mk grammar none).after (Text.lines text)).grammar = grammar :=
    Session.grammar_after _ _
  rw [stateAfter]
  generalize (Session.mk grammar none).after (Text.lines text) = session at reads ⊢
  rw [← reads]

theorem highlightCode_eq_styledLines (code : String) :
    highlightCode code grammar rules =
      styledLines rules (Text.lines code) (tokenizeDocument code grammar) :=
  List.map_zip_eq_zipWith ..

/-- There are tokens for each line. -/
theorem length_tokenizeDocument (code : String) :
    (tokenizeDocument code grammar).length = (Text.lines code).length :=
  Session.length_tokenizeLines _ _

theorem tokenizeDocument_append_newline (a b : String) :
    tokenizeDocument (a ++ "\n" ++ b) grammar = tokenizeDocument a grammar ++
      ((Session.mk grammar (stateAfter grammar a)).tokenizeLines (Text.lines b)).1 := by
  rw [tokenizeDocument, Text.lines_append_newline, Session.tokenizeLines_append, after_lines]
  rfl

/-- Styles do not look over the end of a line. -/
theorem highlightCode_append_newline (a b : String) :
    highlightCode (a ++ "\n" ++ b) grammar rules = highlightCode a grammar rules ++
      styledLines rules (Text.lines b)
        ((Session.mk grammar (stateAfter grammar a)).tokenizeLines (Text.lines b)).1 := by
  have lengths := (length_tokenizeDocument grammar a).symm
  rw [highlightCode_eq_styledLines, highlightCode_eq_styledLines, Text.lines_append_newline,
    tokenizeDocument_append_newline, styledLines, List.zipWith_append lengths]
  rfl

end Highlight

/-- **Appending never changes earlier lines.**  Take any grammar or none, whatever it remembers and
wherever it fails, and write a line feed and a text `b` behind a text `a`.  As many entries as `a`
has lines, which is one more than it has line feeds, stay as they are: those of the tokens, and
those of the highlighted code in any theme.  The others are what a session in the state that `a`
leaves makes of the lines of `b`, an entry to each of them. -/
theorem appending_keeps_lines {σ : Type u} (grammar : Option (Grammar σ)) (rules : ThemeRules)
    (a b : String) :
    let whole := a ++ "\n" ++ b
    let count := (Text.lines a).length
    let session : Session σ := ⟨grammar, stateAfter grammar a⟩
    let more := (session.tokenizeLines (Text.lines b)).1
    count = a.toList.count '\n' + 1 ∧
    Text.lines whole = Text.lines a ++ Text.lines b ∧
    (tokenizeDocument a grammar).length = count ∧
    (highlightCode a grammar rules).length = count ∧
    more.length = (Text.lines b).length ∧
    (tokenizeDocument whole grammar).take count = tokenizeDocument a grammar ∧
    (tokenizeDocument whole grammar).drop count = more ∧
    (highlightCode whole grammar rules).take count = highlightCode a grammar rules ∧
    (highlightCode whole grammar rules).drop count = styledLines rules (Text.lines b) more := by
  intro whole count session more
  have tokens : tokenizeDocument whole grammar = tokenizeDocument a grammar ++ more :=
    tokenizeDocument_append_newline grammar a b
  have runs : highlightCode whole grammar rules =
      highlightCode a grammar rules ++ styledLines rules (Text.lines b) more :=
    highlightCode_append_newline grammar rules a b
  have tokens_length : (tokenizeDocument a grammar).length = count :=
    length_tokenizeDocument grammar a
  have runs_length : (highlightCode a grammar rules).length = count := by
    rw [highlightCode_eq_styledLines, styledLines, List.length_zipWith, tokens_length, Nat.min_self]
  rw [tokens, runs]
  exact ⟨Text.length_lines a, Text.lines_append_newline a b, tokens_length, runs_length,
    Session.length_tokenizeLines _ _,
    List.take_left' tokens_length, List.drop_left' tokens_length,
    List.take_left' runs_length, List.drop_left' runs_length⟩

end MarkdownPager
