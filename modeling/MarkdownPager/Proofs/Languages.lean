import MarkdownPager.Grammar.Language
import MarkdownPager.Proofs.Boundary

/-!
# Languages keep to the characters of a line

Matching moves from character to character, so whatever a pattern finds in a line begins and ends
at a boundary, and so does every change of the scope stack that a language makes there
(`Language.parser_onBoundaries`).

The matcher takes the rest of its work as an argument.  The invariant is a property of that
argument, `Pattern.Keeps`, and a pattern in front of it keeps the property (`Pattern.keeps_run`).
-/

namespace MarkdownPager

universe u

open Text (IsBoundary byteLength)

/-- What is asked of a parser: it changes the scope stack between characters of the line that it
was given, or at the end of the line. -/
def ScopeParser.OnBoundaries {σ : Type u} (parser : ScopeParser σ) : Prop :=
  ∀ state line edits next, parser.parseLine state line = .ok (edits, next) →
    ∀ edit ∈ edits, IsBoundary line edit.1

namespace Pattern

variable {line : String}

/-- A place is one of a line: what follows it is the rest of the line behind its offset. -/
def Place.IsIn (line : String) (place : Place) : Prop :=
  ∃ before, line.toList = before ++ place.rest ∧ byteLength before = place.offset

theorem Place.IsIn.isBoundary {place : Place} (within : place.IsIn line) :
    IsBoundary line place.offset := by
  obtain ⟨before, split, offset⟩ := within
  exact Text.isBoundary_iff.mpr ⟨before, place.rest, split, offset⟩

theorem Place.IsIn.next {place next : Place} {c : Char} (within : place.IsIn line)
    (step : place.next? = some (c, next)) : next.IsIn line := by
  obtain ⟨before, split, offset⟩ := within
  unfold Place.next? at step
  split at step
  · simp at step
  · rename_i c' rest follows
    simp only [Option.some.injEq, Prod.mk.injEq] at step
    obtain ⟨rfl, rfl⟩ := step
    refine ⟨before ++ [c'], ?_, ?_⟩
    · rw [split, follows, List.append_assoc, List.singleton_append]
    · rw [Text.byteLength_append, offset]
      rfl

/-- What was found lies in a line, its groups included. -/
structure Found (line : String) (found : Place × List Capture) : Prop where
  place : found.1.IsIn line
  captures : ∀ capture ∈ found.2, IsBoundary line capture.start ∧ IsBoundary line capture.stop

/-- What is found from within a line lies in the line. -/
def Keeps (line : String) (rest : Rest) : Prop :=
  ∀ {place captures found}, Found line (place, captures) →
    rest place captures = some found → Found line found

/-- Rounds of a body keep what the body keeps in front of anything. -/
theorem keeps_rounds {lazy : Bool}
    {body : Place → List Capture → Rest → Option (Place × List Capture)} {rest : Rest}
    (bodyKeeps : ∀ {rest : Rest}, Keeps line rest →
      Keeps line fun place captures => body place captures rest)
    (restKeeps : Keeps line rest) (fuel : Nat) : Keeps line (rounds lazy body rest fuel) := by
  induction fuel with
  | zero => exact restKeeps
  | succ fuel ih =>
      intro place captures found within reached
      have again : ∀ {found}, (body place captures fun next captures =>
          if next.offset = place.offset then none
          else rounds lazy body rest fuel next captures) = some found → Found line found := by
        refine bodyKeeps (fun {next captures found} within reached => ?_) within
        split at reached
        · simp at reached
        · exact ih within reached
      rw [rounds] at reached
      dsimp only at reached
      split at reached
      · split at reached
        · rename_i result rested
          exact restKeeps within (rested.trans reached)
        · exact again reached
      · split at reached
        · rename_i result repeated
          exact again (repeated.trans reached)
        · exact restKeeps within reached

/-- **A pattern in front of a search keeps what the search keeps.** -/
theorem keeps_run (pattern : Pattern) : ∀ {rest : Rest}, Keeps line rest →
    Keeps line fun place captures => pattern.run place captures rest := by
  induction pattern with
  | nothing => exact fun restKeeps => restKeeps
  | char accepts =>
      intro rest restKeeps place captures found within reached
      simp only [run] at reached
      split at reached
      · simp at reached
      · rename_i c next step
        split at reached
        · exact restKeeps ⟨within.place.next step, within.captures⟩ reached
        · simp at reached
  | seq first second ihFirst ihSecond =>
      intro rest restKeeps
      simp only [run]
      exact ihFirst (ihSecond restKeeps)
  | alt first second ihFirst ihSecond =>
      intro rest restKeeps place captures found within reached
      simp only [run] at reached
      split at reached
      · rename_i result matched
        exact ihFirst restKeeps within (matched.trans reached)
      · exact ihSecond restKeeps within reached
  | many lazy body ih =>
      intro rest restKeeps place captures found within reached
      simp only [run] at reached
      exact keeps_rounds ih restKeeps _ within reached
  | group index body ih =>
      intro rest restKeeps place captures found within reached
      simp only [run] at reached
      refine ih (fun {stop captures found} stopWithin reached => ?_) within reached
      have grown : Found line (stop, captures ++ [⟨index, place.offset, stop.offset⟩]) := by
        refine ⟨stopWithin.place, fun capture member => ?_⟩
        rcases List.mem_append.mp member with earlier | last
        · exact stopWithin.captures capture earlier
        · rw [List.mem_singleton.mp last]
          exact ⟨within.place.isBoundary, stopWithin.place.isBoundary⟩
      exact restKeeps grown reached
  | ahead expected body _ =>
      intro rest restKeeps place captures found within reached
      simp only [run] at reached
      split at reached
      · exact restKeeps within reached
      · simp at reached
  | lineStart =>
      intro rest restKeeps place captures found within reached
      simp only [run] at reached
      split at reached
      · exact restKeeps within reached
      · simp at reached
  | lineEnd =>
      intro rest restKeeps place captures found within reached
      simp only [run] at reached
      split at reached
      · exact restKeeps within reached
      · exact restKeeps within reached
      · simp at reached
  | wordBoundary =>
      intro rest restKeeps place captures found within reached
      simp only [run] at reached
      split at reached
      · exact restKeeps within reached
      · simp at reached

theorem found_of_matchAt? {pattern : Pattern} {place : Place} {found : Place × List Capture}
    (within : place.IsIn line) (matched : pattern.matchAt? place = some found) :
    Found line found := by
  have start : Found line (place, []) := ⟨within, by simp⟩
  refine keeps_run pattern (fun {place captures found} within reached => ?_) start matched
  rw [← Option.some.inj reached]
  exact within

end Pattern

namespace Language

variable {line : String}

/-- A match lies in a line. -/
structure Match.IsIn (line : String) (found : Match) : Prop where
  start : IsBoundary line found.start
  rest : Pattern.Found line (found.stop, found.captures)

theorem isIn_of_matchAt? {rules : List Rule} {place : Pattern.Place} {found : Match}
    (within : place.IsIn line) (matched : matchAt? rules place = some found) :
    found.IsIn line := by
  obtain ⟨rule, -, fits⟩ := List.exists_of_findSome?_eq_some matched
  split at fits
  · simp at fits
  · rename_i stop captures reached
    split at fits
    · simp at fits
    · rw [← Option.some.inj fits]
      exact ⟨within.isBoundary, Pattern.found_of_matchAt? within reached⟩

theorem isIn_of_search? {rules : List Rule} (cs : List Char) :
    ∀ {offset : Nat} {before : Option Char} {found : Match},
      Pattern.Place.IsIn line ⟨offset, before, cs⟩ →
      search? rules offset before cs = some found → found.IsIn line := by
  induction cs with
  | nil => exact fun within searched => isIn_of_matchAt? within searched
  | cons c cs ih =>
      intro offset before found within searched
      rw [search?] at searched
      split at searched
      · rename_i result matched
        exact isIn_of_matchAt? within (matched.trans searched)
      · exact ih (within.next rfl) searched

/-! ## Scope changes -/

theorem fst_of_mem_pushes {offset : Nat} {scopes : List Scope} {edit : ScopeEdit}
    (member : edit ∈ pushes offset scopes) : edit.1 = offset := by
  obtain ⟨scope, -, rfl⟩ := List.mem_map.mp member
  rfl

theorem fst_of_mem_pops {offset : Nat} {scopes : List Scope} {edit : ScopeEdit}
    (member : edit ∈ pops offset scopes) : edit.1 = offset := by
  unfold pops at member
  split at member
  · simp at member
  · rw [List.mem_singleton.mp member]

theorem mem_of_mem_insertEdit {edit other : Nat × Option Nat × ScopeOp}
    {edits : List (Nat × Option Nat × ScopeOp)} (member : other ∈ insertEdit edit edits) :
    other = edit ∨ other ∈ edits := by
  induction edits with
  | nil => exact .inl (List.mem_singleton.mp member)
  | cons first rest ih =>
      rw [insertEdit] at member
      split at member
      · rcases List.mem_cons.mp member with rfl | member
        · exact .inr List.mem_cons_self
        · exact (ih member).imp_right (List.mem_cons_of_mem _)
      · exact List.mem_cons.mp member

/-- Sorting edits adds none. -/
theorem mem_of_mem_foldl_insertEdit {other : Nat × Option Nat × ScopeOp}
    (edits : List (Nat × Option Nat × ScopeOp)) :
    ∀ {sorted : List (Nat × Option Nat × ScopeOp)},
      other ∈ edits.foldl (fun sorted edit => insertEdit edit sorted) sorted →
      other ∈ sorted ∨ other ∈ edits := by
  induction edits with
  | nil => exact fun member => .inl member
  | cons edit edits ih =>
      intro sorted member
      rcases ih member with among | later
      · rcases mem_of_mem_insertEdit among with rfl | earlier
        · exact .inr List.mem_cons_self
        · exact .inl earlier
      · exact .inr (List.mem_cons_of_mem _ later)

theorem Match.IsIn.stretch {found : Match} (within : found.IsIn line) {group start stop : Nat}
    (covered : found.stretch? group = some (start, stop)) :
    IsBoundary line start ∧ IsBoundary line stop := by
  unfold Match.stretch? at covered
  split at covered
  · simp only [Option.some.injEq, Prod.mk.injEq] at covered
    obtain ⟨rfl, rfl⟩ := covered
    exact ⟨within.start, within.rest.place.isBoundary⟩
  · obtain ⟨capture, last, same⟩ := Option.map_eq_some_iff.mp covered
    obtain ⟨rfl, rfl⟩ := Prod.mk.inj same
    exact within.rest.captures capture (List.mem_reverse.mp (List.mem_of_find?_eq_some last))

theorem Match.IsIn.groupEdits {found : Match} (within : found.IsIn line) :
    ∀ edit ∈ found.groupEdits, IsBoundary line edit.1 := by
  intro edit member
  obtain ⟨sorted, among, rfl⟩ := List.mem_map.mp member
  rcases mem_of_mem_foldl_insertEdit _ among with none | made
  · simp at none
  obtain ⟨⟨group, scope⟩, -, made⟩ := List.mem_flatMap.mp made
  dsimp only at made
  split at made
  · simp at made
  · rename_i start stop covered
    obtain ⟨first, last⟩ := within.stretch covered
    split at made
    · simp at made
    · rcases List.mem_pair.mp made with rfl | rfl
      · exact first
      · exact last

theorem Match.IsIn.edits {found : Match} (within : found.IsIn line) (language : Language)
    (current : Context) : ∀ edit ∈ language.edits current found, IsBoundary line edit.1 := by
  intro edit member
  have stop : IsBoundary line found.stop.offset := within.rest.place.isBoundary
  simp only [Language.edits, List.mem_append] at member
  rcases member with (((opened | pushed) | grouped) | popped) | closed
  · rw [fst_of_mem_pushes opened]
    exact within.start
  · rw [fst_of_mem_pushes pushed]
    exact within.start
  · exact within.groupEdits edit grouped
  · rw [fst_of_mem_pops popped]
    exact stop
  · rw [fst_of_mem_pops closed]
    exact stop

/-- Reading on from a place in a line, a language keeps to the line. -/
theorem isBoundary_scan (language : Language) (fuel : Nat) :
    ∀ {contexts : List Context} {place : Pattern.Place}, place.IsIn line →
      ∀ edit ∈ (language.scan fuel contexts place).1, IsBoundary line edit.1 := by
  induction fuel with
  | zero =>
      intro contexts place _ edit member
      simp [scan] at member
  | succ fuel ih =>
      intro contexts place within edit member
      cases contexts with
      | nil => simp [scan] at member
      | cons current outer =>
          rw [scan] at member
          split at member
          · simp at member
          · rename_i found searched
            have matched := isIn_of_search? place.rest within searched
            rcases List.mem_append.mp member with first | later
            · exact matched.edits language current edit first
            · exact ih matched.rest.place edit later

/-- **A language changes the scope stack between characters only.** -/
theorem parser_onBoundaries (language : Language) : language.parser.OnBoundaries := by
  intro state line edits next parsed edit member
  simp only [parser, Except.ok.injEq] at parsed
  have lead : edits = (language.parseLine state line).1 := by rw [parsed]
  rw [lead, parseLine] at member
  rcases List.mem_append.mp member with first | later
  · split at first
    · simp at first
    · rw [List.mem_singleton.mp first]
      exact Text.isBoundary_zero line
  · exact isBoundary_scan language _ ⟨[], rfl, rfl⟩ edit later

end Language

end MarkdownPager
