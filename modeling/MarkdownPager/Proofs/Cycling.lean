import MarkdownPager.Pager.BuiltIn
import MarkdownPager.Proofs.Paging
import MarkdownPager.Proofs.Rows

/-!
# Going around the links

Selecting another link does two things.  The selection moves on by one around the ring of links, and
the page is scrolled to the line that the link begins on.  That line is not always where scrolling
ends: a scroll position has sixteen bits, and the last line of the page stays at the bottom of the
screen.  The link is in view all the same, since its line is one of the lines that are counted.

* `turned` — one step around a ring, and `turned_turned`: a step back undoes it.
* `Pager.InView` — the line of a link is on the screen, and stands out there.
* `Plan.opened_pager_cycles` — both, for the keys and in every state of a pager.
-/

namespace MarkdownPager

/-! ## The ring -/

/-- The place next to `index` on a ring of `count` places, or the one before it. -/
def turned (backwards : Bool) (count index : Nat) : Nat :=
  (index + if backwards then count - 1 else 1) % count

theorem turned_lt (backwards : Bool) {count index : Nat} (inside : index < count) :
    turned backwards count index < count :=
  Nat.mod_lt _ (Nat.zero_lt_of_lt inside)

/-- Going back from the first place leads to the last one. -/
theorem turned_true {count index : Nat} (inside : index < count) :
    turned true count index = if index = 0 then count - 1 else index - 1 := by
  rw [turned, if_pos rfl]
  split
  · rename_i first
    rw [first, Nat.zero_add, Nat.mod_eq_of_lt (by omega)]
  · have once : index + (count - 1) = index - 1 + count := by omega
    rw [once, Nat.add_mod_right, Nat.mod_eq_of_lt (by omega)]

/-- **A step back undoes a step**, in both directions. -/
theorem turned_turned (backwards : Bool) {count index : Nat} (inside : index < count) :
    turned (!backwards) count (turned backwards count index) = index := by
  have around : (index + (count - 1) + 1) % count = index := by
    have once : index + (count - 1) + 1 = index + count := by omega
    rw [once, Nat.add_mod_right, Nat.mod_eq_of_lt inside]
  cases backwards with
  | false =>
      show ((index + 1) % count + (count - 1)) % count = index
      rw [Nat.mod_add_mod, Nat.add_right_comm, around]
  | true =>
      show ((index + (count - 1)) % count + 1) % count = index
      rw [Nat.mod_add_mod, around]

/-- The key that selects the next link, or the one before. -/
def Key.cycling (backwards : Bool) : Key := if backwards then .backTab else .tab

namespace Pager

variable {σ : Type} {pager : Pager σ}

/-- A key for another link does not fail, and does not end the pager. -/
theorem handleKey_cycling (pager : Pager σ) (outside : Outside) (backwards : Bool) :
    pager.handleKey outside (.cycling backwards) = (.ok false, pager.cycleLink backwards) := by
  cases backwards <;> rfl

/-! ## Lines on the screen -/

/-- **A link is in view.**  The line that it begins on is one of those on the screen, it is the line
on which the link was recorded, and it stands out. -/
structure InView (pager : Pager σ) (link : PageLink) : Prop where
  selected : pager.selectedLink? = some link
  scroll_le : pager.scroll ≤ link.line
  lt_bottom : link.line < pager.scroll + pager.viewportHeight
  shown : ∃ row, (rows pager.page.nodes)[link.line]? = some row ∧ link.recorded ∈ row.links ∧
    pager.lines[link.line]? = some (highlighted row)

/-- **Scrolling to a line brings it onto the screen**, even where the scrolling stops before it: the
screen then shows the end of the page. -/
theorem onScreen_scrollTo (pager : Pager σ) {line : Nat} (inside : line < pager.lineCount)
    (viewport : 1 ≤ pager.viewportHeight)
    (fits : pager.lineCount ≤ pager.viewportHeight + maxCoordinate) :
    let scrolled := pager.scrollTo (saturate line)
    scrolled.scroll ≤ line ∧ line < scrolled.scroll + scrolled.viewportHeight := by
  have most : pager.maxScroll = pager.lineCount - pager.viewportHeight := by
    rw [maxScroll, Nat.max_eq_left viewport, saturate]
    omega
  show min (saturate line) pager.maxScroll ≤ line ∧
    line < min (saturate line) pager.maxScroll + pager.viewportHeight
  rw [most, saturate]
  omega

/-! ## One step -/

/-- A consistent pager with links has one of them selected. -/
theorem Consistent.exists_selected (consistent : pager.Consistent) (some_link : pager.links ≠ []) :
    ∃ index, pager.selected = some index ∧ index < pager.links.length := by
  cases selected : pager.selected with
  | none => exact absurd (consistent.selected.mp selected) some_link
  | some index => exact ⟨index, rfl, consistent.inside index selected⟩

/-- **Another link.**  It is the one next to the selected link on the ring, and the pager scrolls to
the line that it begins on. -/
theorem cycleLink_eq {index : Nat} {link : PageLink} (selected : pager.selected = some index)
    (inside : index < pager.links.length) (backwards : Bool)
    (found : pager.links[turned backwards pager.links.length index]? = some link) :
    pager.cycleLink backwards =
      ({ pager with
          selected := some (turned backwards pager.links.length index) } : Pager σ).scrollTo
        (saturate link.line) := by
  have some_link : pager.links.isEmpty = false :=
    List.isEmpty_eq_false_iff.mpr (List.ne_nil_of_length_pos (Nat.zero_lt_of_lt inside))
  have next : (if backwards then if index = 0 then pager.links.length - 1 else index - 1
      else (index + 1) % pager.links.length) = turned backwards pager.links.length index := by
    cases backwards with
    | false => rfl
    | true => rw [if_pos rfl, turned_true inside]
  unfold Pager.cycleLink
  simp only [some_link, Bool.false_eq_true, if_false, selected, Option.getD_some, next]
  have line : selectedLine?
      { pager with selected := some (turned backwards pager.links.length index) } =
        some link.line := by
    show (pager.links[turned backwards pager.links.length index]?).map (·.line) = some link.line
    rw [found, Option.map_some]
  simp only [line]

/-- The selection moves by one around the ring, and the ring stays. -/
theorem selected_cycleLink {index : Nat} (selected : pager.selected = some index)
    (inside : index < pager.links.length) (backwards : Bool) :
    (pager.cycleLink backwards).links = pager.links ∧
      (pager.cycleLink backwards).selected = some (turned backwards pager.links.length index) := by
  have found := List.getElem?_eq_getElem (turned_lt backwards inside)
  rw [cycleLink_eq selected inside backwards found]
  exact ⟨rfl, rfl⟩

/-- **There and back** again, in both directions. -/
theorem selected_cycleLink_cycleLink {index : Nat} (selected : pager.selected = some index)
    (inside : index < pager.links.length) (backwards : Bool) :
    ((pager.cycleLink backwards).cycleLink !backwards).selected = pager.selected := by
  obtain ⟨links, moved⟩ := selected_cycleLink selected inside backwards
  have next : turned backwards pager.links.length index <
      (pager.cycleLink backwards).links.length := by
    rw [links]
    exact turned_lt backwards inside
  rw [(selected_cycleLink moved next !backwards).2, links, turned_turned backwards inside, selected]

/-- **Selecting another link brings it into view**, if a scroll position can reach the end of the
page. -/
theorem Consistent.inView_cycleLink (consistent : pager.Consistent) {index : Nat}
    (selected : pager.selected = some index) (inside : index < pager.links.length)
    (fits : pager.lineCount ≤ pager.viewportHeight + maxCoordinate) (backwards : Bool) :
    ∃ link, (pager.cycleLink backwards).InView link := by
  obtain ⟨link, found⟩ : ∃ link,
      pager.links[turned backwards pager.links.length index]? = some link :=
    ⟨_, List.getElem?_eq_getElem (turned_lt backwards inside)⟩
  have member : link ∈ collectLinks pager.page.nodes :=
    consistent.links ▸ List.mem_of_getElem? found
  obtain ⟨row, there, recorded⟩ := exists_row_of_mem_collectLinks member
  have counted : link.line < pager.lineCount := by
    rw [lineCount_eq]
    exact (List.getElem?_eq_some_iff.mp there).1
  obtain ⟨scroll_le, lt_bottom⟩ := pager.onScreen_scrollTo counted consistent.viewport fits
  have scrolled := cycleLink_eq selected inside backwards found
  have chosen : (pager.cycleLink backwards).selectedLink? = some link := by
    rw [scrolled]
    exact found
  have page : (pager.cycleLink backwards).page = pager.page := by
    rw [scrolled]
    rfl
  refine ⟨link, chosen, ?_, ?_, row, page ▸ there, recorded, ?_⟩
  · rw [scrolled]
    exact scroll_le
  · rw [scrolled]
    exact lt_bottom
  · rw [getElem?_lines, page, there, Option.map_some, selectedLine?, chosen, Option.map_some, shown,
      if_pos rfl]

end Pager

namespace Plan

variable {σ : Type} (parsers : Parsers σ)

open Pager in
/-- **Going around the links of a page.**  Take any state of a pager with links in which a scroll
position of sixteen bits reaches the end of the page.  The key for the next link, or for the one
before, selects the link at the place next to the selected one on the ring of all links, and brings
it into view.  The key for the other direction then leads back to the link that was selected. -/
theorem opened_pager_cycles (plan : Plan) (themes : Themes) (text : String) :
    ∃ pager, plan.openPager parsers themes text = .ok pager ∧
      ∀ (events : List Pager.Event) (outside : Outside) (backwards : Bool),
        let before := pager.run events
        let count := before.links.length
        before.links ≠ [] → before.lineCount ≤ before.viewportHeight + maxCoordinate →
        ∃ index after link again,
          before.selected = some index ∧ index < count ∧
          before.handleKey outside (.cycling backwards) = (.ok false, after) ∧
          after.links = before.links ∧
          after.selected = some ((index + if backwards then count - 1 else 1) % count) ∧
          after.InView link ∧
          after.handleKey outside (.cycling !backwards) = (.ok false, again) ∧
          again.selected = before.selected := by
  obtain ⟨report, page, presented, shows⟩ :=
    plan.exists_present parsers text themes plan.arguments.config.appearance
  have started := consistent_start shows themes plan.source.path? plan.arguments.watch
  have opened : plan.openPager parsers themes text =
      .ok (start themes page plan.source.path? plan.arguments.watch text) := by
    rw [openPager, presented]
    rfl
  refine ⟨_, opened, fun events outside backwards => ?_⟩
  intro before count some_link fits
  have consistent : before.Consistent := started.run events
  obtain ⟨index, selected, inside⟩ := consistent.exists_selected some_link
  obtain ⟨links, moved⟩ := selected_cycleLink selected inside backwards
  obtain ⟨link, view⟩ := consistent.inView_cycleLink selected inside fits backwards
  exact ⟨index, before.cycleLink backwards, link, _, selected, inside,
    handleKey_cycling before outside backwards, links, moved, view,
    handleKey_cycling _ outside !backwards, selected_cycleLink_cycleLink selected inside backwards⟩

theorem parse_two_links (firstId : Nat) :
    Document.parse Markdown.eventsOf firstId "[a](b)\n\n[c](d)" =
      (⟨"[a](b)\n\n[c](d)",
        [⟨⟨firstId + 9⟩, ⟨0, 6⟩, .paragraph [.link "b" [.text "a"]]⟩,
          ⟨⟨firstId + 4⟩, ⟨8, 14⟩, .paragraph [.link "d" [.text "c"]]⟩]⟩, firstId + 10) := by
  have events : Markdown.eventsOf "[a](b)\n\n[c](d)" =
      [(.opening .paragraph, ⟨0, 7⟩), (.opening (.link "b"), ⟨0, 6⟩), (.leaf (.text "a"), ⟨1, 2⟩),
        (.closing, ⟨0, 6⟩), (.closing, ⟨0, 7⟩), (.opening .paragraph, ⟨8, 14⟩),
        (.opening (.link "d"), ⟨8, 14⟩), (.leaf (.text "c"), ⟨9, 10⟩), (.closing, ⟨8, 14⟩),
        (.closing, ⟨8, 14⟩)] := by cbv
  rw [Document.parse, events]
  rfl

theorem nodes_two_links (themes : Themes) (appearance : Appearance) :
    (LiveDocument.updated (Page.start .builtIn themes appearance) "[a](b)\n\n[c](d)").nodes =
      [⟨[⟨[⟨"a", { foreground := some (.rgb Renderer.linkColor), underlined := true }⟩], "a",
          [⟨"a", "b"⟩]⟩]⟩,
        ⟨[⟨[⟨"c", { foreground := some (.rgb Renderer.linkColor), underlined := true }⟩], "c",
          [⟨"c", "d"⟩]⟩]⟩] := by
  simp only [LiveDocument.updated, LiveDocument.showing, LiveDocument.prepare, Page.start,
    LiveDocument.start, Parsers.builtIn, parse_two_links]
  rfl

/-- Two paragraphs with a link each, and room for one line: the second link begins on the last of
three lines. -/
theorem opened_pager_cycles_two_links :
    let plan : Plan := ⟨.standardInput, {}⟩
    let themes : Themes := ⟨⟨none, []⟩, ⟨none, []⟩⟩
    let outside : Outside := ⟨fun _ => .ok "", fun _ => .ok ()⟩
    ∃ pager, plan.openPager .builtIn themes "[a](b)\n\n[c](d)" = .ok pager ∧
      pager.links = [⟨"a", "b", 0⟩, ⟨"c", "d", 2⟩] ∧ pager.lineCount = 3 ∧
      pager.viewportHeight = 1 ∧ pager.selected = some 0 ∧
      ∃ after link, pager.handleKey outside .tab = (.ok false, after) ∧
        after.selected = some 1 ∧ after.InView link ∧ link.line = 2 := by
  intro plan themes outside
  obtain ⟨pager, opened, cycles⟩ := opened_pager_cycles .builtIn plan themes "[a](b)\n\n[c](d)"
  obtain rfl : Pager.start themes
      (LiveDocument.updated (Page.start .builtIn themes .dark) "[a](b)\n\n[c](d)") none false
      "[a](b)\n\n[c](d)" = pager := by
    rw [openPager, present] at opened
    have none_streamed : plan.arguments.stream = none := rfl
    rw [none_streamed] at opened
    simp only [LiveDocument.update_eq] at opened
    exact Except.ok.inj opened
  refine ⟨_, opened, ?_⟩
  have nodes := nodes_two_links themes .dark
  generalize LiveDocument.updated (Page.start .builtIn themes .dark) "[a](b)\n\n[c](d)" = page
    at nodes cycles ⊢
  have links : collectLinks page.nodes = [⟨"a", "b", 0⟩, ⟨"c", "d", 2⟩] := by
    rw [nodes]
    rfl
  have count : (Pager.start themes page none false "[a](b)\n\n[c](d)").lineCount = 3 := by
    show page.nodes.foldl (fun count block => count + block.lines.length) 0 +
      (page.nodes.length - 1) = 3
    rw [nodes]
    rfl
  have first : (Pager.start themes page none false "[a](b)\n\n[c](d)").selected = some 0 := by
    show (if (collectLinks page.nodes).isEmpty then none else some 0) = some 0
    rw [links]
    rfl
  have some_link : (Pager.start themes page none false "[a](b)\n\n[c](d)").links ≠ [] := by
    show collectLinks page.nodes ≠ []
    rw [links]
    exact List.cons_ne_nil _ _
  obtain ⟨index, after, link, -, selected, -, handled, ring, moved, view, -⟩ :=
    cycles [] outside false some_link (by
      show (Pager.start themes page none false "[a](b)\n\n[c](d)").lineCount ≤ 1 + maxCoordinate
      rw [count]
      decide)
  obtain rfl : 0 = index := Option.some.inj (first.symm.trans selected)
  have ring' : after.links = [⟨"a", "b", 0⟩, ⟨"c", "d", 2⟩] := ring.trans links
  have second : after.selected = some 1 := by
    rw [moved]
    show some ((0 + 1) % (collectLinks page.nodes).length) = some 1
    rw [links]
    rfl
  have chosen := view.selected
  rw [Pager.selectedLink?, second, Option.bind_some, ring'] at chosen
  obtain rfl : ⟨"c", "d", 2⟩ = link := Option.some.inj chosen
  exact ⟨links, count, rfl, first, after, _, handled, second, view, rfl⟩

end Plan

end MarkdownPager
