import MarkdownPager.Proofs.Highlight

/-!
# What the pieces of a line carry

A parser says where in a line the scope stack changes, and the grammar made from it cuts the line at
these places.  Several changes may be made at one place, also at the beginning or behind the last
byte, and each piece has to carry the stack as it is after all changes up to its first byte and
before all others.

What a change makes of the stack is up to the parser, and nothing has to be known of it.

* `ScopeParser.afterAll` — the stack after changes, one after the other.
* `ScopeParser.map_snd_replay` — replaying makes all the changes, or fails for the reason for which
  one of them does not apply.
* `ScopeParser.stacksAt_replay` — a byte of the line lies in one piece, and the piece carries the
  stack after all changes up to the byte.
* `ScopeParser.grammar_replays_changes` — both for a whole line, and what a failure leaves behind.
-/

namespace MarkdownPager

universe u

/-- A first piece gives its stack to the bytes in it, and nothing to the others. -/
theorem Token.stacksAt_cons (byte : Nat) (token : Token) (rest : List Token) :
    stacksAt byte (token :: rest) =
      if token.covers byte then token.scopes :: stacksAt byte rest else stacksAt byte rest := by
  rw [stacksAt, List.filter_cons]
  split <;> rfl

/-- A byte before the first piece lies in none. -/
theorem Token.Tiles.stacksAt_eq_nil {stop byte : Nat} {tokens : List Token} :
    ∀ {start : Nat}, Tiles start stop tokens → byte < start → stacksAt byte tokens = [] := by
  induction tokens with
  | nil => exact fun _ _ => rfl
  | cons token rest ih =>
      rintro start ⟨rfl, nonempty, tiles⟩ before
      have outside : token.covers byte = false := by
        simp [covers, Nat.not_le_of_lt before]
      rw [stacksAt_cons, outside]
      exact ih tiles (Nat.lt_trans before nonempty)

namespace ScopeParser

variable {σ : Type u}

/-! ## Replaying changes -/

/-- The stack after changes, one after the other, or why one of them does not apply. -/
def afterAll (parser : ScopeParser σ) (stack : ScopeStack) (ops : List ScopeOp) :
    Except String ScopeStack :=
  ops.foldlM parser.apply stack

variable {parser : ScopeParser σ}

@[simp] theorem afterAll_nil (stack : ScopeStack) : parser.afterAll stack [] = .ok stack := rfl

@[simp] theorem afterAll_cons (stack : ScopeStack) (op : ScopeOp) (ops : List ScopeOp) :
    parser.afterAll stack (op :: ops) = (parser.apply stack op).bind (parser.afterAll · ops) := rfl

/-- The changes up to a byte, in their order. -/
def changesUpTo (byte : Nat) (edits : List (Nat × ScopeOp)) : List ScopeOp :=
  (edits.filter (·.1 ≤ byte)).map (·.2)

theorem changesUpTo_cons (byte : Nat) (edit : Nat × ScopeOp) (edits : List (Nat × ScopeOp)) :
    changesUpTo byte (edit :: edits) =
      if edit.1 ≤ byte then edit.2 :: changesUpTo byte edits else changesUpTo byte edits := by
  rw [changesUpTo, List.filter_cons]
  by_cases before : edit.1 ≤ byte <;> simp [before, changesUpTo]

/-- Changes behind a byte do not reach it. -/
theorem changesUpTo_eq_nil {byte : Nat} {edits : List (Nat × ScopeOp)}
    (later : ∀ edit ∈ edits, byte < edit.1) : changesUpTo byte edits = [] := by
  rw [changesUpTo, List.map_eq_nil_iff, List.filter_eq_nil_iff]
  intro edit member
  simpa using later edit member

/-- **Replaying makes all the changes**, or fails for the reason that one of them gives. -/
theorem map_snd_replay (length : Nat) (edits : List (Nat × ScopeOp)) :
    ∀ (cursor : Nat) (stack : ScopeStack),
      (parser.replay length edits cursor stack).map (·.2) =
        (parser.afterAll stack (edits.map (·.2))).mapError .tokenizer := by
  induction edits with
  | nil => exact fun _ _ => rfl
  | cons edit edits ih =>
      obtain ⟨offset, op⟩ := edit
      intro cursor stack
      rw [replay, List.map_cons, afterAll_cons]
      cases parser.apply stack op with
      | error reason => rfl
      | ok next =>
          dsimp only [Except.bind]
          split
          · -- The piece in front has no part in the final stack.
            rw [← ih offset next]
            cases parser.replay length edits offset next <;> rfl
          · exact ih cursor next

/-- Changes that all apply cut the line and give the stack after them. -/
theorem exists_of_afterAll_eq_ok {edits : List (Nat × ScopeOp)} {stack final : ScopeStack}
    (applied : parser.afterAll stack (edits.map (·.2)) = .ok final) (length cursor : Nat) :
    ∃ tokens, parser.replay length edits cursor stack = .ok (tokens, final) := by
  have all := parser.map_snd_replay length edits cursor stack
  rw [applied] at all
  cases replayed : parser.replay length edits cursor stack with
  | error failure => simp [replayed, Except.map, Except.mapError] at all
  | ok answer =>
      simp only [replayed, Except.map, Except.mapError, Except.ok.injEq] at all
      exact ⟨answer.1, by rw [← all]⟩

/-- One change that does not apply fails the line. -/
theorem replay_of_afterAll_eq_error {edits : List (Nat × ScopeOp)} {stack : ScopeStack}
    {reason : String} (stuck : parser.afterAll stack (edits.map (·.2)) = .error reason)
    (length cursor : Nat) :
    parser.replay length edits cursor stack = .error (.tokenizer reason) := by
  have all := parser.map_snd_replay length edits cursor stack
  rw [stuck] at all
  cases replayed : parser.replay length edits cursor stack with
  | error failure => simpa [replayed, Except.map, Except.mapError] using all
  | ok answer => simp [replayed, Except.map, Except.mapError] at all

/-- **A byte lies in one piece**, which carries the stack after all changes up to the byte, provided
that the changes come in the order of their offsets. -/
theorem stacksAt_replay {length byte : Nat} (inside : byte < length)
    (edits : List (Nat × ScopeOp)) :
    ∀ {cursor : Nat} {stack final : ScopeStack} {tokens : List Token},
      parser.replay length edits cursor stack = .ok (tokens, final) →
      edits.Pairwise (fun earlier later => earlier.1 ≤ later.1) →
      (∀ edit ∈ edits, cursor ≤ edit.1 ∧ edit.1 ≤ length) → cursor ≤ byte →
      ∃ current, parser.afterAll stack (changesUpTo byte edits) = .ok current ∧
        Token.stacksAt byte tokens = [current.scopes] := by
  -- No change that is left comes before `cursor`, where the stack is `stack`.
  induction edits with
  | nil =>
      intro cursor stack final tokens replayed _ _ from_cursor
      rw [replay, if_pos (Nat.lt_of_le_of_lt from_cursor inside), Except.ok.injEq,
        Prod.mk.injEq] at replayed
      refine ⟨stack, rfl, ?_⟩
      rw [← replayed.1]
      simp [Token.stacksAt, Token.covers, from_cursor, inside]
  | cons edit edits ih =>
      obtain ⟨offset, op⟩ := edit
      intro cursor stack final tokens replayed sorted bounds from_cursor
      obtain ⟨behind, sorted⟩ := List.pairwise_cons.mp sorted
      obtain ⟨⟨from_offset, offset_le⟩, bounds⟩ := List.forall_mem_cons.mp bounds
      have bounds : ∀ edit ∈ edits, offset ≤ edit.1 ∧ edit.1 ≤ length := fun edit member =>
        ⟨behind edit member, (bounds edit member).2⟩
      obtain ⟨next, changed, ⟨ahead, rest, rfl, more⟩ | ⟨reached, more⟩⟩ :=
        exists_of_replay_cons replayed
      · rw [Token.stacksAt_cons, changesUpTo_cons]
        by_cases before : byte < offset
        · -- The byte lies in the piece that the change ends.
          have covered : Token.covers ⟨cursor, offset, stack.scopes⟩ byte = true := by
            simp [Token.covers, from_cursor, before]
          have tiles := tiles_replay edits more offset_le fun edit member => (bounds edit member).2
          have unchanged : changesUpTo byte edits = [] :=
            changesUpTo_eq_nil fun edit member => Nat.lt_of_lt_of_le before (bounds edit member).1
          refine ⟨stack, ?_, ?_⟩
          · rw [if_neg (Nat.not_le_of_lt before), unchanged, afterAll_nil]
          · rw [if_pos covered, tiles.stacksAt_eq_nil before]
        · have passed : Token.covers ⟨cursor, offset, stack.scopes⟩ byte = false := by
            simp [Token.covers, before]
          rw [if_pos (Nat.le_of_not_lt before), passed, afterAll_cons, changed]
          exact ih more sorted bounds (Nat.le_of_not_lt before)
      · -- The change is made at `cursor`, so nothing is cut off.
        obtain rfl : offset = cursor := Nat.le_antisymm reached from_offset
        rw [changesUpTo_cons, if_pos from_cursor, afterAll_cons, changed]
        exact ih more sorted bounds from_cursor

/-! ## Lines -/

/-- What the grammar makes of a line that its parser reads. -/
theorem grammar_of_parseLine {line : String}
    {state : Option (ReplayState σ)} {edits : List (Nat × ScopeOp)} {parse : σ}
    (parsed : parser.parseLine (state.getD ⟨parser.initial, {}⟩).parse (line ++ "\n") =
      .ok (edits, parse)) :
    parser.grammar line state =
      (parser.replay (line.utf8ByteSize + 1) edits 0
        (state.getD ⟨parser.initial, {}⟩).scopes).map fun answer => (answer.1, ⟨parse, answer.2⟩) := by
  unfold grammar
  dsimp only
  rw [parsed]
  dsimp only
  split <;> rename_i replayed <;> rw [replayed] <;> rfl

/-- **The grammar makes the changes where the parser says.**  Let the parser read a line, whatever
its changes make of the stack.

If all its changes apply, and none is made behind the line feed, the grammar answers with pieces
that leave no gap up to the line feed, and with the stack after all changes.  If moreover no change
is made before an earlier one, each byte lies in one piece, which carries the stack after all changes
up to the byte and no others.

If some change does not apply, the grammar fails for its reason, and a session that reads the line
is afterwards what it was before. -/
theorem grammar_replays_changes (parser : ScopeParser σ) (line : String)
    (state : Option (ReplayState σ)) {edits : List (Nat × ScopeOp)} {parse : σ}
    (parsed : parser.parseLine (state.getD ⟨parser.initial, {}⟩).parse (line ++ "\n") =
      .ok (edits, parse)) :
    let carried := (state.getD ⟨parser.initial, {}⟩).scopes
    let stop := line.utf8ByteSize + 1
    (∀ final, parser.afterAll carried (edits.map (·.2)) = .ok final →
      (∀ edit ∈ edits, edit.1 ≤ stop) →
      ∃ tokens, parser.grammar line state = .ok (tokens, ⟨parse, final⟩) ∧
        Token.Tiles 0 stop tokens ∧
        (edits.Pairwise (fun earlier later => earlier.1 ≤ later.1) → ∀ byte < stop,
          ∃ current, parser.afterAll carried (changesUpTo byte edits) = .ok current ∧
            Token.stacksAt byte tokens = [current.scopes])) ∧
    (∀ reason, parser.afterAll carried (edits.map (·.2)) = .error reason →
      parser.grammar line state = .error (.tokenizer reason) ∧
      ∀ session : Session (ReplayState σ), session.grammar = some parser.grammar →
        session.state = state → session.tokenizeLine line = (Token.passthrough line, session)) := by
  intro carried stop
  have answered := grammar_of_parseLine parsed
  refine ⟨fun final applied offsets_le => ?_, fun reason stuck => ?_⟩
  · obtain ⟨tokens, replayed⟩ := exists_of_afterAll_eq_ok applied stop 0
    have tiles := tiles_replay edits replayed (Nat.zero_le _) offsets_le
    refine ⟨tokens, ?_, tiles, fun sorted byte inside => ?_⟩
    · rw [answered, replayed]
      rfl
    · exact stacksAt_replay inside edits replayed sorted
        (fun edit member => ⟨Nat.zero_le _, offsets_le edit member⟩) (Nat.zero_le _)
  · have failed : parser.grammar line state = .error (.tokenizer reason) := by
      rw [answered, replay_of_afterAll_eq_error stuck]
      rfl
    refine ⟨failed, fun session reads carries => ?_⟩
    unfold Session.tokenizeLine
    rw [reads]
    dsimp only
    rw [carries, failed]

/-- A change before the first byte, two behind it and one behind the line feed; then a line with
nothing to put back. -/
theorem grammar_replays_changes_shared_offset :
    let root : Scope := ⟨["source"]⟩
    let word : Scope := ⟨["keyword"]⟩
    let edits := [(0, ScopeOp.push word), (1, .clear none), (1, .push word), (3, .restore)]
    let parser : ScopeParser Unit :=
      ⟨(), fun _ line => .ok (if line = "ab\n" then edits else [(0, .restore)], ()),
        ScopeStack.apply⟩
    let state : ReplayState Unit := ⟨(), ⟨[root], []⟩⟩
    let session : Session (ReplayState Unit) := ⟨some parser.grammar, some state⟩
    (∃ tokens,
      parser.grammar "ab" (some state) = .ok (tokens, ⟨(), ⟨[word, root, word], []⟩⟩) ∧
        Token.Tiles 0 3 tokens ∧
        Token.stacksAt 0 tokens = [[root, word]] ∧ Token.stacksAt 1 tokens = [[word]]) ∧
      session.tokenizeLine "c" = (Token.passthrough "c", session) := by
  intro root word edits parser state session
  refine ⟨?_, ?_⟩
  · have whole := (grammar_replays_changes parser "ab" (some state) rfl).1
    obtain ⟨tokens, answered, tiles, carried⟩ := whole ⟨[word, root, word], []⟩ rfl (by decide)
    obtain ⟨first, first_eq, at_first⟩ := carried (by decide) 0 (by decide)
    obtain ⟨second, second_eq, at_second⟩ := carried (by decide) 1 (by decide)
    obtain rfl : ⟨[root, word], []⟩ = first := Except.ok.inj first_eq
    obtain rfl : ⟨[word], [[root, word]]⟩ = second := Except.ok.inj second_eq
    exact ⟨tokens, answered, tiles, at_first, at_second⟩
  · have stuck := (grammar_replays_changes parser "c" (some state) rfl).2
    exact (stuck _ rfl).2 session rfl rfl

end ScopeParser

end MarkdownPager
