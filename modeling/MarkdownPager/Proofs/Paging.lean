import MarkdownPager.Pager.Event
import MarkdownPager.Proofs.Stream

/-!
# What holds in every state of a pager

The fields of a pager depend on each other: its links are those of the blocks that it shows, one of
them is selected if there are any, it has not scrolled past the end, and its text is the text of the
page.  `Pager.Consistent` says so, and every event keeps it.

What a key can do comes down to six things (`Pager.KeyEffect`).  Showing another text makes a pager
consistent that was not so before (`Pager.consistent_applySource`), as it has to when the appearance
changes: the page and the pager are then without a text until they are given it again.
-/

namespace MarkdownPager

namespace Pager

/-- **The fields of a pager fit together.** -/
structure Consistent {σ : Type} (pager : Pager σ) : Prop where
  links : pager.links = collectLinks pager.page.nodes
  selected : pager.selected = none ↔ pager.links = []
  inside : ∀ index, pager.selected = some index → index < pager.links.length
  scroll : pager.scroll ≤ pager.maxScroll
  viewport : 1 ≤ pager.viewportHeight
  source : pager.page.current.map (·.source) = some pager.source

section Change

variable {σ : Type} {pager next : Pager σ}

/-! ## Changes that keep the page -/

theorem Consistent.withStatus (consistent : pager.Consistent) (status : String) :
    { pager with status }.Consistent :=
  ⟨consistent.links, consistent.selected, consistent.inside, consistent.scroll,
    consistent.viewport, consistent.source⟩

/-- Scrolling stops at the end. -/
theorem Consistent.scrollTo (consistent : pager.Consistent) (line : Nat) :
    (pager.scrollTo line).Consistent :=
  ⟨consistent.links, consistent.selected, consistent.inside, Nat.min_le_right _ _,
    consistent.viewport, consistent.source⟩

theorem Consistent.select (consistent : pager.Consistent) {index : Nat}
    (inside : index < pager.links.length) :
    { pager with selected := some index }.Consistent where
  links := consistent.links
  selected := by
    have some_link : pager.links ≠ [] := List.ne_nil_of_length_pos (Nat.zero_lt_of_lt inside)
    simp [some_link]
  inside := by
    intro other same
    exact Option.some.inj same ▸ inside
  scroll := consistent.scroll
  viewport := consistent.viewport
  source := consistent.source

/-- Selecting goes around the links. -/
theorem Consistent.cycleLink (consistent : pager.Consistent) (backwards : Bool) :
    (pager.cycleLink backwards).Consistent := by
  unfold Pager.cycleLink
  split
  · rename_i empty
    have none_selected := consistent.selected.mpr (List.isEmpty_iff.mp empty)
    have same : { pager with selected := none } = pager := by rw [← none_selected]
    rw [same]
    exact consistent
  · rename_i nonempty
    have positive : 0 < pager.links.length :=
      List.length_pos_iff.mpr (mt List.isEmpty_iff.mpr nonempty)
    have current : pager.selected.getD 0 < pager.links.length := by
      cases selected : pager.selected with
      | none => exact positive
      | some index => exact consistent.inside index selected
    have chosen : (if backwards then
        if pager.selected.getD 0 = 0 then pager.links.length - 1 else pager.selected.getD 0 - 1
        else (pager.selected.getD 0 + 1) % pager.links.length) < pager.links.length := by
      split
      · split <;> omega
      · exact Nat.mod_lt _ positive
    have selecting := consistent.select chosen
    dsimp only
    split
    · exact selecting.scrollTo _
    · exact selecting

/-! ## Another text -/

/-- The link that is selected next: the one with the index that was selected before, or the last
one. -/
theorem selection_inside {α : Type} (links : List α) (before : Nat) :
    let selected := if links.isEmpty then none else some (min before (links.length - 1))
    (selected = none ↔ links = []) ∧ ∀ index, selected = some index → index < links.length := by
  cases links with
  | nil => simp
  | cons link rest =>
      refine ⟨by simp, fun index selected => ?_⟩
      obtain rfl : min before rest.length = index := by simpa using selected
      exact Nat.lt_succ_of_le (Nat.min_le_right _ _)

/-- **Showing another text** never fails. -/
theorem applySource_eq (source : String) (pager : Pager σ) :
    ∃ status,
      let page := pager.page.updated source
      let links := collectLinks page.nodes
      let selected :=
        if links.isEmpty then none else some (min (pager.selected.getD 0) (links.length - 1))
      pager.applySource source =
        (.ok (), ({ pager with page, source, links, selected, status } : Pager σ).clampScroll) := by
  rw [applySource, LiveDocument.update_eq]
  exact ⟨_, rfl⟩

/-- What shows another text is consistent, whether or not the pager was so before. -/
theorem consistent_applySource (viewport : 1 ≤ pager.viewportHeight) (source : String) :
    (pager.applySource source).2.Consistent := by
  obtain ⟨status, result⟩ := pager.applySource_eq source
  obtain ⟨selected, inside⟩ := selection_inside
    (collectLinks (pager.page.updated source).nodes) (pager.selected.getD 0)
  rw [result]
  exact ⟨rfl, selected, inside, Nat.min_le_right _ _, viewport, rfl⟩

/-- **Reading the file again** shows its text, if there is a file that can be read. -/
theorem reload_cases (outside : Outside) (pager : Pager σ) :
    (pager.reload outside).2 = pager ∨
      ∃ source, pager.reload outside = pager.applySource source := by
  unfold Pager.reload
  split
  · exact .inl rfl
  · split
    · exact .inr ⟨_, rfl⟩
    · exact .inl rfl

theorem Consistent.reload (consistent : pager.Consistent) (outside : Outside) :
    (pager.reload outside).2.Consistent := by
  rcases pager.reload_cases outside with same | ⟨source, applied⟩
  · rw [same]
    exact consistent
  · rw [applied]
    exact consistent_applySource consistent.viewport source

theorem Consistent.toggleAppearance (consistent : pager.Consistent) :
    pager.toggleAppearance.2.Consistent := by
  refine consistent_applySource ?_ pager.source
  exact consistent.viewport

/-! ## Keys -/

/-- Opening a link changes the status line at most. -/
theorem exists_status_openSelected (outside : Outside) (pager : Pager σ) :
    ∃ status, (pager.openSelected outside).2 = { pager with status } := by
  have outer : ∀ target, ∃ status,
      (pager.openOutside outside target).2 = { pager with status } := by
    intro target
    unfold openOutside
    split
    · exact ⟨_, rfl⟩
    · exact ⟨pager.status, rfl⟩
  unfold openSelected
  split
  · exact ⟨_, rfl⟩
  · split
    · exact ⟨_, rfl⟩
    · exact outer _
    · exact outer _

/-- **What a key can do**, whether or not it fails. -/
inductive KeyEffect (outside : Outside) (pager : Pager σ) : Pager σ → Prop where
  | stay : KeyEffect outside pager pager
  | scroll (line : Nat) : KeyEffect outside pager (pager.scrollTo line)
  | cycle (backwards : Bool) : KeyEffect outside pager (pager.cycleLink backwards)
  | opened : KeyEffect outside pager (pager.openSelected outside).2
  | toggled : KeyEffect outside pager pager.toggleAppearance.2
  | reloaded : KeyEffect outside pager (pager.reload outside).2

theorem keyEffect_handleKey (outside : Outside) (key : Key) (pager : Pager σ) :
    KeyEffect outside pager (pager.handleKey outside key).2 := by
  unfold handleKey
  dsimp only
  split
  -- `q` and keys that mean nothing; then scrolling, selecting, and what may fail.
  case h_1 | h_15 => exact .stay
  case h_2 | h_3 | h_4 | h_5 | h_6 | h_7 | h_8 | h_9 => exact .scroll _
  case h_10 | h_11 => exact .cycle _
  case h_12 => exact .opened
  case h_13 => exact .toggled
  case h_14 => exact .reloaded

theorem Consistent.of_keyEffect (consistent : pager.Consistent) {outside : Outside}
    (effect : KeyEffect outside pager next) : next.Consistent := by
  cases effect with
  | stay => exact consistent
  | scroll line => exact consistent.scrollTo line
  | cycle backwards => exact consistent.cycleLink backwards
  | opened =>
      obtain ⟨status, opened⟩ := pager.exists_status_openSelected outside
      rw [opened]
      exact consistent.withStatus status
  | toggled => exact consistent.toggleAppearance
  | reloaded => exact consistent.reload outside

/-! ## Runs -/

/-- A screen of another height: the pager takes note of the room there is, and scrolls back if there
is more of it now. -/
theorem Consistent.resize (consistent : pager.Consistent) (height : Nat) :
    (pager.resize height).Consistent :=
  ⟨consistent.links, consistent.selected, consistent.inside, Nat.min_le_right _ _,
    Nat.le_max_right _ _, consistent.source⟩

end Change

variable {σ : Type}

/-- **A property that every change keeps**: a note in the status line, whatever a key can do, and
drawing on a screen of any height. -/
structure Invariant (Holds : Pager σ → Prop) : Prop where
  status : ∀ {pager : Pager σ} (status : String), Holds pager → Holds { pager with status }
  key : ∀ {pager next : Pager σ} {outside : Outside}, KeyEffect outside pager next →
    Holds pager → Holds next
  resize : ∀ {pager : Pager σ} (height : Nat), Holds pager → Holds (pager.resize height)

namespace Invariant

variable {Holds : Pager σ → Prop} {pager : Pager σ} (invariant : Invariant Holds)

include invariant

/-- **One event.** -/
theorem step (event : Event) (holds : Holds pager) : Holds (pager.step event) := by
  cases event with
  | key key outside => exact invariant.key (keyEffect_handleKey outside key pager) holds
  | changed outside unwatched =>
      have reloaded : Holds (pager.reload outside).2 := invariant.key .reloaded holds
      simp only [Pager.step]
      split
      · rename_i next shown
        rw [shown] at reloaded
        split
        · split
          · exact invariant.status _ reloaded
          · exact reloaded
        · exact reloaded
      · rename_i failure next failed
        rw [failed] at reloaded
        exact invariant.status _ reloaded
  | toggle =>
      -- Nothing is read or started, so any surroundings will do.
      have effect : KeyEffect ⟨fun _ => .error .missing, fun _ => .ok ()⟩ pager
          pager.toggleAppearance.2 := .toggled
      exact invariant.key effect holds
  | draw width height => exact invariant.resize height holds

/-- **All events.** -/
theorem run (events : List Event) (holds : Holds pager) : Holds (pager.run events) := by
  induction events generalizing pager with
  | nil => exact holds
  | cons event events ih => exact ih (invariant.step event holds)

end Invariant

theorem consistent_invariant : @Invariant σ Consistent where
  status status consistent := consistent.withStatus status
  key effect consistent := consistent.of_keyEffect effect
  resize height consistent := consistent.resize height

theorem Consistent.run {pager : Pager σ} (consistent : pager.Consistent) (events : List Event) :
    (pager.run events).Consistent :=
  consistent_invariant.run events consistent

/-- A pager that starts on a page with its text. -/
theorem consistent_start {page : Page σ} {source : String}
    (shows : page.current.map (·.source) = some source) (themes : Themes) (path : Option String)
    (watch : Bool) : (start themes page path watch source).Consistent := by
  obtain ⟨selected, inside⟩ := selection_inside (collectLinks page.nodes) 0
  simp only [Nat.zero_min] at selected inside
  exact ⟨rfl, selected, inside, Nat.zero_le _, Nat.le_refl _, shows⟩

end Pager

namespace Plan

variable {σ : Type} (parsers : Parsers σ)

/-- A text is presented by updates of the page, the last of which shows all of it. -/
theorem exists_texts_present (plan : Plan) (text : String) (page : Page σ) :
    ∃ report, ∃ texts : List String, texts.getLast? = some text ∧
      plan.present text page = .ok (report, texts.foldl LiveDocument.updated page) := by
  unfold present
  split
  · rw [LiveDocument.update_eq]
    exact ⟨_, [text], rfl, rfl⟩
  · rename_i chunk _
    obtain ⟨stats, streams⟩ := streamInto_eq text chunk page
    rw [streams]
    exact ⟨_, streamTexts text chunk, getLast?_streamTexts text chunk, rfl⟩

/-- **A page shows the text that it is given**, at once or in chunks. -/
theorem exists_present (plan : Plan) (text : String) (themes : Themes) (appearance : Appearance) :
    ∃ report page, plan.present text (Page.start parsers themes appearance) = .ok (report, page) ∧
      page.current.map (·.source) = some text := by
  obtain ⟨report, texts, last, presented⟩ :=
    plan.exists_texts_present text (Page.start parsers themes appearance)
  refine ⟨report, _, presented, ?_⟩
  obtain ⟨before, rfl⟩ := List.getLast?_eq_some_iff.mp last
  rw [List.foldl_append]
  rfl

/-- A pager that does not stream shows the text at once. -/
theorem openPager_of_stream_eq_none (plan : Plan) (whole : plan.arguments.stream = none)
    (themes : Themes) (text : String) :
    plan.openPager parsers themes text = .ok (.start themes
      ((Page.start parsers themes plan.arguments.config.appearance).updated text)
      plan.source.path? plan.arguments.watch text) := by
  rw [openPager, present, whole]
  simp only [LiveDocument.update_eq]
  rfl

/-- **The fields of a pager always fit together.**  Every text can be opened, whatever it is parsed
with, and the pager is consistent after whatever happens to it. -/
theorem opened_pager_stays_consistent (plan : Plan) (themes : Themes) (text : String) :
    ∃ pager, plan.openPager parsers themes text = .ok pager ∧
      ∀ events, (pager.run events).Consistent := by
  obtain ⟨report, page, presented, shows⟩ :=
    plan.exists_present parsers text themes plan.arguments.config.appearance
  have started := Pager.consistent_start shows themes plan.source.path? plan.arguments.watch
  refine ⟨_, ?_, started.run⟩
  rw [openPager, presented]
  rfl

end Plan

end MarkdownPager
