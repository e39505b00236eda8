import Mathlib
import MarkdownPager.Pager.BuiltIn
import MarkdownPager.Pager.Wrap
import MarkdownPager.Proofs.Paging
import MarkdownPager.Proofs.Rows

/-!
# Wrapped lines and the end of the page

Scrolling and drawing count in different units.  A scroll position is at most the number of lines
that the screen has no room for, while drawing breaks each line into rows, and leaves out as many
*rows* as the scroll position says.  The units are the same as long as each line is one row.

Where lines are broken is the layout's business, and two laws are all that is known of it
(`TextLayout.Lawful`): a line has a row at least, and a line for which there is room is not broken.
By the first law the rows are never fewer than the scrolling reckons with.  If they are more, the
rows at the end of the page are out of reach:

* `TextLayout.lawful_singleColumn` — the laws hold where every character takes one column.
* `Screen.rows_eq` — what a screen shows, from the title to the status line.
* `Pager.endInView_resize_iff` — which scroll positions have the last row of the page on the screen.
* `Pager.end_in_view_iff` — the last of them does exactly if each line is one row, or if the whole
  page is on the screen anyway.
* `Plan.opened_pager_hides_end` — a text of three words of which only the first can be seen.
-/

namespace MarkdownPager

/-! ## Texts in which every character takes one column -/

namespace Wrap

variable {wrap : Wrap} {width : Nat}

/-- The number of characters in the row in the making and behind it. -/
def held (wrap : Wrap) : Nat := wrap.row.length + wrap.spaces.length + wrap.word.length

theorem held_settle (wrap : Wrap) : wrap.settle.held = wrap.held := by
  simp only [held, settle, List.length_append, List.length_nil]
  omega

theorem held_add (wrap : Wrap) (c : Char) : (wrap.add c).held = wrap.held + 1 := by
  unfold add
  split <;> simp only [held, List.length_cons] <;> omega

theorem rows_add (wrap : Wrap) (c : Char) : (wrap.add c).rows = wrap.rows := by
  unfold add
  split <;> rfl

/-- **As long as there is room** no row is finished, and no character is lost. -/
theorem read_of_held_lt (room : wrap.held < width) (c : Char) :
    (wrap.read width c).rows = wrap.rows ∧ (wrap.read width c).held = wrap.held + 1 := by
  -- Settling a word moves characters within what is held, so it does not matter whether it is done.
  have stays (settled : Wrap) (same : settled.held = wrap.held) :
      (width ≤ settled.row.length ||
        width ≤ settled.row.length + settled.spaces.length + settled.word.length) = false := by
    have sum := same
    unfold held at sum room
    simp only [Bool.or_eq_false_iff, decide_eq_false_iff_not]
    omega
  unfold read
  dsimp only
  split
  · rw [if_neg (ne_true_of_eq_false (stays _ wrap.held_settle)), rows_add, held_add, held_settle]
    exact ⟨rfl, rfl⟩
  · rw [if_neg (ne_true_of_eq_false (stays _ rfl)), rows_add, held_add]
    exact ⟨rfl, rfl⟩

/-- A text for which there is room finishes no row. -/
theorem rows_foldl_read (text : List Char) :
    ∀ wrap : Wrap, wrap.held + text.length ≤ width →
      (text.foldl (Wrap.read width) wrap).rows = wrap.rows := by
  induction text with
  | nil => exact fun _ _ => rfl
  | cons c text ih =>
      intro wrap room
      rw [List.length_cons] at room
      obtain ⟨rows, held⟩ := read_of_held_lt (by omega : wrap.held < width) c
      rw [List.foldl_cons, ih _ (by omega), rows]

/-- What is read when nothing more comes: white space without a row in front of it is an empty
row, and everything else is put into the row. -/
def close (wrap : Wrap) : Wrap :=
  if wrap.word.isEmpty && wrap.spaces.isEmpty then wrap
  else if wrap.row.isEmpty && wrap.word.isEmpty then { wrap with rows := [] :: wrap.rows }
  else wrap.settle

/-- The finished rows, and the row in the making if there is something in it. -/
def allRows (wrap : Wrap) : List (List Char) :=
  if wrap.row.isEmpty then wrap.rows else wrap.row :: wrap.rows

theorem finish_eq (wrap : Wrap) :
    wrap.finish = if wrap.close.allRows.isEmpty then [[]] else wrap.close.allRows := rfl

/-- There is always a row. -/
theorem finish_ne_nil (wrap : Wrap) : wrap.finish ≠ [] := by
  rw [finish_eq]
  split
  · exact List.cons_ne_nil _ _
  · rename_i some_row
    exact mt List.isEmpty_iff.mpr some_row

/-- If no row has been finished, closing leaves one at most. -/
theorem length_allRows_close (unfinished : wrap.rows = []) : wrap.close.allRows.length ≤ 1 := by
  have most (closed : Wrap) (same : closed.rows = []) : closed.allRows.length ≤ 1 := by
    unfold allRows
    split <;> simp [same]
  unfold close
  split
  · exact most _ unfinished
  · split
    · rename_i blank
      rw [Bool.and_eq_true] at blank
      rw [allRows, if_pos blank.1, unfinished]
      exact Nat.le_refl 1
    · exact most _ unfinished

/-- If no row has been finished, there is one in the end. -/
theorem length_finish (unfinished : wrap.rows = []) : wrap.finish.length = 1 := by
  rw [finish_eq]
  split
  · rfl
  · rename_i some_row
    have positive : 0 < wrap.close.allRows.length :=
      List.length_pos_iff.mpr (mt List.isEmpty_iff.mpr some_row)
    exact Nat.le_antisymm (length_allRows_close unfinished) positive

end Wrap

theorem wrapLine_ne_nil (width : Nat) (line : List Char) : wrapLine width line ≠ [] := by
  rw [wrapLine, Ne, List.map_eq_nil_iff, List.reverse_eq_nil_iff]
  exact Wrap.finish_ne_nil _

/-- **A text that is no wider than a row is one row.** -/
theorem length_wrapLine_eq_one {width : Nat} {line : List Char} (narrow : line.length ≤ width) :
    (wrapLine width line).length = 1 := by
  have room : Wrap.start.held + line.length ≤ width := by
    show 0 + line.length ≤ width
    omega
  rw [wrapLine, List.length_map, List.length_reverse]
  exact Wrap.length_finish (Wrap.rows_foldl_read line _ room)

/-! ## What is known of a layout -/

namespace TextLayout

/-- There is room for a line in a row: it takes fewer columns than the row has, or just as many.  A
line that fills its row must not have characters without a column of their own, since such a
character may still ask for a new row. -/
def Fits (layout : TextLayout) (width : Nat) (line : List String) : Prop :=
  layout.columns line < width ∨
    layout.columns line ≤ width ∧
      ∀ text ∈ line, ∀ c ∈ text.toList, 0 < layout.columns [.singleton c]

/-- **The laws of a layout.** -/
structure Lawful (layout : TextLayout) : Prop where
  /-- A line has a row, be it an empty one. -/
  rows_ne_nil : ∀ {width : Nat} (line : List String), 0 < width → layout.rows width line ≠ []
  /-- A line for which there is room is not broken. -/
  unbroken : ∀ {width : Nat} {line : List String}, 0 < width → layout.Fits width line →
    (layout.rows width line).length = 1

theorem lawful_singleColumn : singleColumn.Lawful where
  rows_ne_nil line _ := wrapLine_ne_nil _ (charsOf line)
  unbroken := by
    intro width line _ fits
    have narrow : (charsOf line).length ≤ width := fits.elim Nat.le_of_lt And.left
    exact length_wrapLine_eq_one narrow

/-- Where every character takes one column, there is room for all lines but those that are longer
than a row. -/
theorem fits_singleColumn {width : Nat} {line : List String}
    (one_line : ∀ text ∈ line, '\n' ∉ text.toList) (narrow : (charsOf line).length ≤ width) :
    singleColumn.Fits width line := by
  refine .inr ⟨narrow, fun text among c inside => ?_⟩
  have no_break : c ≠ '\n' := fun same => one_line text among (same ▸ inside)
  simp [singleColumn, charsOf, no_break]

/-- The rows of lines. -/
def rowsOf (layout : TextLayout) (width : Nat) (lines : List (List String)) : List (List Char) :=
  lines.flatMap (layout.rows width)

section Rows

variable {layout : TextLayout} (lawful : layout.Lawful) {width : Nat} (positive : 0 < width)

include lawful positive

/-- The rows are never fewer than the lines, and as many only if no line is broken. -/
theorem length_rowsOf (lines : List (List String)) :
    lines.length ≤ (layout.rowsOf width lines).length ∧
      ((layout.rowsOf width lines).length = lines.length ↔
        ∀ line ∈ lines, (layout.rows width line).length = 1) := by
  induction lines with
  | nil => simp [rowsOf]
  | cons line rest ih =>
      obtain ⟨at_least, as_many⟩ := ih
      have some_row : 1 ≤ (layout.rows width line).length :=
        List.length_pos_iff.mpr (lawful.rows_ne_nil line positive)
      have split : (layout.rowsOf width (line :: rest)).length =
          (layout.rows width line).length + (layout.rowsOf width rest).length := by
        rw [rowsOf, List.flatMap_cons, List.length_append, rowsOf]
      rw [split, List.length_cons, List.forall_mem_cons, ← as_many]
      omega

/-- The last row is the last one of the last line. -/
theorem getLast?_rowsOf (lines : List (List String)) :
    (layout.rowsOf width lines).getLast? =
      lines.getLast?.bind fun line => (layout.rows width line).getLast? := by
  rcases List.eq_nil_or_concat' lines with rfl | ⟨before, last, rfl⟩
  · rfl
  · obtain ⟨row, there⟩ : ∃ row, (layout.rows width last).getLast? = some row :=
      ⟨_, List.getLast?_eq_some_getLast (lawful.rows_ne_nil last positive)⟩
    rw [rowsOf, List.flatMap_append, List.flatMap_singleton, List.getLast?_append,
      List.getLast?_concat, Option.bind_some, there, Option.some_or]

end Rows

end TextLayout

/-! ## The screen -/

namespace Screen

/-- A part of a list, filled up at its end, place by place. -/
theorem take_drop_append_replicate {α : Type} (items : List α) (first count : Nat) (blank : α) :
    let part := (items.drop first).take count
    part ++ List.replicate (count - part.length) blank =
      (List.range count).map fun index => items[first + index]?.getD blank := by
  intro part
  have length : part.length = min count (items.length - first) := by
    rw [List.length_take, List.length_drop]
  have full : (part ++ List.replicate (count - part.length) blank).length = count := by
    rw [List.length_append, List.length_replicate]
    omega
  refine List.ext_getElem (by rw [full, List.length_map, List.length_range])
    fun index inside _ => ?_
  have below : index < count := full ▸ inside
  rw [List.getElem_map, List.getElem_range, List.getElem_append]
  split
  · rename_i there
    have exists_item : first + index < items.length := by omega
    rw [List.getElem_take, List.getElem_drop, List.getElem?_eq_getElem exists_item,
      Option.getD_some]
  · rename_i behind
    have no_item : items.length ≤ first + index := by omega
    rw [List.getElem_replicate, List.getElem?_eq_none no_item, Option.getD_none]

/-- What stands in a row of the screen where the page has a row, or nothing any more. -/
def bodyText (row? : Option (List Char)) : String :=
  rowText ((row?.map (' ' :: ' ' :: ·)).getD [])

/-- **What a screen shows**: the title, the rows of the page below those that are scrolled away, and
the status line.  Below the end of the page the screen is empty. -/
theorem rows_eq (layout : TextLayout) {width height : Nat} (wide : 5 ≤ width) (high : 3 ≤ height)
    (scroll : Nat) (lines : List (List String)) (status : List Char) :
    rows layout width height scroll lines status =
      rowText (' ' :: titleRow (width - 2)) ::
        ((List.range (height - 2)).map fun index =>
          bodyText (layout.rowsOf (width - 4) lines)[scroll + index]?) ++
        [rowText (' ' :: ' ' :: layout.cut (width - 4) status)] := by
  obtain ⟨body, rfl⟩ : ∃ body, height = body + 2 := ⟨height - 2, by omega⟩
  have columns : ¬ width - 4 = 0 := by omega
  have above : ¬ body + 2 ≤ 1 := by omega
  have content : contentRows layout (width - 4) body scroll lines =
      ((layout.rowsOf (width - 4) lines).drop scroll).take body := by
    rw [contentRows, if_neg columns, TextLayout.rowsOf]
  have filled := take_drop_append_replicate
    ((layout.rowsOf (width - 4) lines).map (' ' :: ' ' :: ·)) scroll body []
  rw [← List.map_drop, ← List.map_take, ← content] at filled
  have body_rows : (body + 2 - 1) - ((' ' :: titleRow (width - 2)) ::
      (contentRows layout (width - 4) body scroll lines).map (' ' :: ' ' :: ·)).length =
        body - ((contentRows layout (width - 4) body scroll lines).map
          (' ' :: ' ' :: ·)).length := by
    rw [List.length_cons]
    omega
  have one_row : body + 2 - (body + 2 - 1) = 1 := by omega
  unfold rows
  simp only [above, if_false]
  rw [show body + 2 - 1 - 1 = body from rfl, body_rows, one_row, List.cons_append, filled,
    List.take_of_length_le (by simp), List.map_append, List.map_cons, List.map_map]
  simp only [Function.comp_def, bodyText, List.getElem?_map]
  rfl

end Screen

namespace Pager

variable {σ : Type} {height : Nat}

/-! ## Scrolling -/

/-- The rows of the page on a screen of some width. -/
def pageRows (layout : TextLayout) (width : Nat) (pager : Pager σ) : List (List Char) :=
  layout.rowsOf (width - 4) (pager.lines.map textsOf)

/-- **The end of the page is in view.**  The last row of the page is one of those between the title
and the status line of a screen, unless there is no row at all. -/
def EndInView (layout : TextLayout) (width height : Nat) (pager : Pager σ) : Prop :=
  pager.pageRows layout width = [] ∨
    ∃ index < height - 2, pager.scroll + index + 1 = (pager.pageRows layout width).length

/-- The scrolling reckons with the room between the title and the status line. -/
theorem maxScroll_resize (high : 3 ≤ height) (pager : Pager σ) :
    (pager.resize height).maxScroll = saturate (pager.lineCount - (height - 2)) := by
  have viewport : max (max ((if height ≤ 1 then height else height - 1) - 1) 1) 1 = height - 2 := by
    rw [if_neg (by omega)]
    omega
  rw [← viewport]
  rfl

/-- Drawing scrolls back if there is too little below. -/
theorem scroll_resize (high : 3 ≤ height) (pager : Pager σ) :
    (pager.resize height).scroll =
      min pager.scroll (saturate (pager.lineCount - (height - 2))) := by
  rw [← maxScroll_resize high pager]
  rfl

theorem length_lines (pager : Pager σ) : pager.lines.length = pager.lineCount := by
  rw [lineCount_eq, lines_eq, List.length_map, List.length_zipIdx]

/-- The rows hold the texts of the page, whatever is selected. -/
theorem pageRows_eq (layout : TextLayout) (width : Nat) (pager : Pager σ) :
    pager.pageRows layout width =
      layout.rowsOf (width - 4) ((rows pager.page.nodes).map (·.texts)) :=
  congrArg (layout.rowsOf (width - 4)) pager.map_texts_lines

section Layout

variable {layout : TextLayout} (lawful : layout.Lawful) {width : Nat} (wide : 5 ≤ width)

include lawful wide

/-- There are no fewer rows than lines, and no more only if no line is broken. -/
theorem length_pageRows (pager : Pager σ) :
    pager.lineCount ≤ (pager.pageRows layout width).length ∧
      ((pager.pageRows layout width).length = pager.lineCount ↔
        ∀ line ∈ pager.lines, (layout.rows (width - 4) (textsOf line)).length = 1) := by
  have counted := TextLayout.length_rowsOf lawful (Nat.sub_pos_of_lt wide) (pager.lines.map textsOf)
  rw [List.length_map, length_lines, List.forall_mem_map] at counted
  exact counted

/-- **Which scroll positions show the end.**  The rows that are scrolled away and those that the
screen has room for have to be all rows.  It does not matter that drawing may scroll back, since it
does so by lines that are on the page. -/
theorem endInView_resize_iff (high : 3 ≤ height) (pager : Pager σ) :
    (pager.resize height).EndInView layout width height ↔
      (pager.pageRows layout width).length ≤
        min pager.scroll (saturate (pager.lineCount - (height - 2))) + (height - 2) := by
  have at_least := (pager.length_pageRows lawful wide).1
  show (pager.pageRows layout width = [] ∨ ∃ index < height - 2,
    (pager.resize height).scroll + index + 1 = (pager.pageRows layout width).length) ↔ _
  rw [scroll_resize high, ← List.length_eq_zero_iff, saturate]
  constructor
  · rintro (none_there | ⟨index, inside, last⟩) <;> omega
  · intro enough
    by_cases none_there : (pager.pageRows layout width).length = 0
    · exact .inl none_there
    -- The last row stands on the screen as many rows below the top as there are between them.
    · exact .inr ⟨(pager.pageRows layout width).length - 1 -
        min pager.scroll (min (pager.lineCount - (height - 2)) maxCoordinate), by omega, by omega⟩

end Layout

/-- **What is drawn** between the title and the status line: the rows of the page from the scroll
position on. -/
theorem getElem?_draw (layout : TextLayout) {width index : Nat} (wide : 5 ≤ width)
    (high : 3 ≤ height) (pager : Pager σ) (inside : index < height - 2) :
    (pager.draw layout width height).2[index + 1]? = some (Screen.bodyText
      (pager.pageRows layout width)[(pager.resize height).scroll + index]?) := by
  let drawn := pager.resize height
  have same_rows : layout.rowsOf (width - 4) (drawn.lines.map textsOf) =
      pager.pageRows layout width := rfl
  show (Screen.rows layout width height drawn.scroll (drawn.lines.map textsOf)
    (' ' :: firstRow drawn.statusText))[index + 1]? = _
  rw [Screen.rows_eq layout wide high, same_rows, List.cons_append, List.getElem?_cons_succ,
    List.getElem?_append_left (by rwa [List.length_map, List.length_range]), List.getElem?_map,
    List.getElem?_range inside]
  rfl

/-! ## The end -/

/-- The pager after it has been drawn and has gone to the end. -/
def bottom (height : Nat) (pager : Pager σ) : Pager σ :=
  let drawn := pager.resize height
  drawn.scrollTo drawn.maxScroll

theorem scroll_bottom (high : 3 ≤ height) (pager : Pager σ) :
    (pager.bottom height).scroll = saturate (pager.lineCount - (height - 2)) := by
  rw [← maxScroll_resize high pager]
  exact Nat.min_self _

/-- Drawing once more does not scroll back. -/
theorem scroll_resize_bottom (high : 3 ≤ height) (pager : Pager σ) :
    ((pager.bottom height).resize height).scroll =
      saturate (pager.lineCount - (height - 2)) := by
  rw [scroll_resize high, scroll_bottom high]
  exact Nat.min_self _

section Layout

variable {layout : TextLayout} (lawful : layout.Lawful) {width : Nat} (wide : 5 ≤ width)

include lawful wide

/-- Going to the end scrolls as far as possible. -/
theorem endInView_bottom_iff (high : 3 ≤ height) (pager : Pager σ) :
    ((pager.bottom height).resize height).EndInView layout width height ↔
      (pager.pageRows layout width).length ≤
        saturate (pager.lineCount - (height - 2)) + (height - 2) := by
  have count : (pager.bottom height).lineCount = pager.lineCount := rfl
  have rows : (pager.bottom height).pageRows layout width = pager.pageRows layout width := rfl
  rw [endInView_resize_iff lawful wide high, scroll_bottom high, count, rows, Nat.min_self]

/-- **When the end can be seen**: if all of the page can, or if each line is one row and scrolling
reaches the last line. -/
theorem endInView_bottom_iff_unbroken (high : 3 ≤ height) (pager : Pager σ) :
    ((pager.bottom height).resize height).EndInView layout width height ↔
      (pager.pageRows layout width).length ≤ height - 2 ∨
        pager.lineCount - (height - 2) ≤ maxCoordinate ∧
          ∀ line ∈ pager.lines, (layout.rows (width - 4) (textsOf line)).length = 1 := by
  obtain ⟨at_least, as_many⟩ := pager.length_pageRows lawful wide
  rw [endInView_bottom_iff lawful wide high, ← as_many, saturate]
  omega

/-- No scroll position shows the end of a page that hides it here. -/
theorem endInView_bottom_of_scroll (high : 3 ≤ height) {pager : Pager σ} {scroll : Nat}
    (visible : ({ pager with scroll }.resize height).EndInView layout width height) :
    ((pager.bottom height).resize height).EndInView layout width height := by
  have enough : (pager.pageRows layout width).length ≤
      min scroll (saturate (pager.lineCount - (height - 2))) + (height - 2) :=
    (endInView_resize_iff lawful wide high _).mp visible
  rw [endInView_bottom_iff lawful wide high]
  omega

end Layout

/-- **The end of the page.**  Draw a page on a screen with room for a column and a row of it, go to
the end, and draw it again, in any layout with the two laws.  Between the title and the status line
are then the rows of the page from the scroll position on, and the last row of the page is the last
row of its last line.

That row is in view exactly if the whole page is, or if each line is one row and the scroll position
at which the last line is at the bottom has sixteen bits.  So it is in view if there is room for
each line in a row; and on a page with a line of several rows it is not, unless the whole page is.
Where the end is not in view, no other scroll position brings it there. -/
theorem end_in_view_iff {layout : TextLayout} (lawful : layout.Lawful) {width height : Nat}
    (pager : Pager σ) (outside : Outside) (control : Bool) (wide : 5 ≤ width) (high : 3 ≤ height) :
    ∃ bottom,
      (pager.draw layout width height).1.handleKey outside (.char 'G' control) =
        (.ok false, bottom) ∧
      let drawn := (bottom.draw layout width height).1
      let screen := (bottom.draw layout width height).2
      let rows := pager.pageRows layout width
      let rowsOfLine := fun line => layout.rows (width - 4) (textsOf line)
      let reachable := pager.lineCount - (height - 2) ≤ maxCoordinate
      drawn.scroll = saturate (pager.lineCount - (height - 2)) ∧
      (∀ index < height - 2,
        screen[index + 1]? = some (Screen.bodyText rows[drawn.scroll + index]?)) ∧
      rows.getLast? = pager.lines.getLast?.bind (fun line => (rowsOfLine line).getLast?) ∧
      (drawn.EndInView layout width height ↔ rows.length ≤ height - 2 ∨
        reachable ∧ ∀ line ∈ pager.lines, (rowsOfLine line).length = 1) ∧
      (reachable → (∀ line ∈ pager.lines, layout.Fits (width - 4) (textsOf line)) →
        drawn.EndInView layout width height) ∧
      (∀ line ∈ pager.lines, 2 ≤ (rowsOfLine line).length → height - 2 < rows.length →
        ¬ drawn.EndInView layout width height) ∧
      ∀ scroll, ({ pager with scroll }.draw layout width height).1.EndInView layout width height →
        drawn.EndInView layout width height := by
  refine ⟨pager.bottom height, rfl, ?_⟩
  intro drawn screen rows rowsOfLine reachable
  have room : 0 < width - 4 := Nat.sub_pos_of_lt wide
  have exactly := pager.endInView_bottom_iff_unbroken lawful wide high
  refine ⟨pager.scroll_resize_bottom high, fun index inside => ?_, ?_, exactly,
    fun fits narrow => ?_, fun line among several hidden visible => ?_, fun scroll visible => ?_⟩
  · exact (pager.bottom height).getElem?_draw layout wide high inside
  · rw [show rows = layout.rowsOf (width - 4) (pager.lines.map textsOf) from rfl,
      TextLayout.getLast?_rowsOf lawful room, List.getLast?_map, Option.bind_map]
    rfl
  · exact exactly.mpr (.inr ⟨fits, fun line among => lawful.unbroken room (narrow line among)⟩)
  · rcases exactly.mp visible with whole | ⟨-, unbroken⟩
    · exact absurd whole (Nat.not_le_of_lt hidden)
    · have one : (rowsOfLine line).length = 1 := unbroken line among
      omega
  · exact endInView_bottom_of_scroll lawful wide high visible

/-- Three lines on a screen with room for two rows: the last line is in view. -/
theorem end_in_view_iff_three_lines :
    let block : RenderedBlock :=
      ⟨["one", "two", "three"].map fun word => ⟨[⟨word, {}⟩], word, []⟩⟩
    let themes : Themes := ⟨⟨none, []⟩, ⟨none, []⟩⟩
    let outside : Outside := ⟨fun _ => .ok "", fun _ => .ok ()⟩
    let page := { Page.start .builtIn themes .dark with nodes := [block] }
    let pager := Pager.start themes page none false ""
    let layout := TextLayout.singleColumn
    layout.Lawful ∧ 5 ≤ 9 ∧ 3 ≤ 4 ∧
      ∃ bottom,
        (pager.draw layout 9 4).1.handleKey outside (.char 'G' false) = (.ok false, bottom) ∧
        (bottom.draw layout 9 4).1.EndInView layout 9 4 ∧
        (bottom.draw layout 9 4).2[2]? = some "  three" := by
  intro block themes outside page pager layout
  refine ⟨TextLayout.lawful_singleColumn, by decide, by decide, ?_⟩
  obtain ⟨bottom, pressed, scroll, shown, -, -, narrow, -⟩ :=
    end_in_view_iff TextLayout.lawful_singleColumn pager outside false (by decide : 5 ≤ 9)
      (by decide : 3 ≤ 4)
  have count : pager.lineCount = 3 := rfl
  have lines : pager.lines = [[⟨"one", {}⟩], [⟨"two", {}⟩], [⟨"three", {}⟩]] := rfl
  have rows : pager.pageRows layout 9 = ["one", "two", "three"].map String.toList := by
    rw [pageRows, lines]
    rfl
  rw [count] at scroll
  refine ⟨bottom, pressed, narrow (by rw [count]; decide) ?_, ?_⟩
  · rw [lines]
    simp only [List.forall_mem_cons]
    -- Not even "three" is longer than a row.
    refine ⟨?_, ?_, ?_, by simp⟩ <;>
      exact TextLayout.fits_singleColumn (by simp [textsOf]) (by decide)
  · rw [shown 1 (by decide), rows, scroll]
    rfl

end Pager

/-! ## An end that is out of reach -/

theorem Document.parse_three_words (firstId : Nat) :
    Document.parse Markdown.eventsOf firstId "one two three" =
      (⟨"one two three",
        [⟨⟨firstId + 2⟩, ⟨0, 13⟩, .paragraph [.text "one two three"]⟩]⟩, firstId + 3) := by
  have events : Markdown.eventsOf "one two three" =
      [(.opening .paragraph, ⟨0, 13⟩), (.leaf (.text "one two three"), ⟨0, 13⟩),
        (.closing, ⟨0, 13⟩)] := by cbv
  rw [Document.parse, events]
  rfl

namespace Plan

theorem nodes_three_words (themes : Themes) (appearance : Appearance) :
    (LiveDocument.updated (Page.start .builtIn themes appearance) "one two three").nodes =
      [⟨[⟨[⟨"one two three", {}⟩], "one two three", []⟩]⟩] := by
  simp only [LiveDocument.updated, LiveDocument.showing, LiveDocument.prepare, Page.start,
    Parsers.builtIn, LiveDocument.start, Document.parse_three_words]
  rfl

/-- **Not every page can be read to its end.**  Three words on one line are three rows of five
columns.  There is one line and room for one row, so that there is nothing to scroll, and the screen
stays at the first word. -/
theorem opened_pager_hides_end :
    let plan : Plan := ⟨.standardInput, {}⟩
    let themes : Themes := ⟨⟨none, []⟩, ⟨none, []⟩⟩
    let outside : Outside := ⟨fun _ => .ok "", fun _ => .ok ()⟩
    let layout := TextLayout.singleColumn
    layout.Lawful ∧
    ∃ pager bottom, plan.openPager .builtIn themes "one two three" = .ok pager ∧
      (pager.draw layout 9 3).1.handleKey outside (.char 'G' false) = (.ok false, bottom) ∧
      pager.lineCount = 1 ∧
      pager.pageRows layout 9 = ["one", "two", "three"].map String.toList ∧
      (bottom.draw layout 9 3).2.dropLast = ["  livemd", "  one"] ∧
      ¬ (bottom.draw layout 9 3).1.EndInView layout 9 3 := by
  intro plan themes outside layout
  have lawful : layout.Lawful := TextLayout.lawful_singleColumn
  have opened := plan.openPager_of_stream_eq_none .builtIn rfl themes "one two three"
  refine ⟨lawful, _, _, opened, rfl, ?_⟩
  have nodes := nodes_three_words themes .dark
  generalize made : Pager.start themes _ _ _ "one two three" = pager
  have shows : pager.page.nodes = [⟨[⟨[⟨"one two three", {}⟩], "one two three", []⟩]⟩] :=
    made ▸ nodes
  have count : pager.lineCount = 1 := by
    rw [Pager.lineCount_eq, shows]
    rfl
  have words : pager.pageRows layout 9 = ["one", "two", "three"].map String.toList := by
    rw [Pager.pageRows_eq, shows]
    decide +kernel
  have top (scroll : Nat) : ({ pager with scroll }.resize 3).scroll = 0 := by
    rw [Pager.scroll_resize (by decide)]
    show min scroll (saturate (pager.lineCount - 1)) = 0
    rw [count]
    exact Nat.min_zero scroll
  have screen (scroll : Nat) :
      ({ pager with scroll }.draw layout 9 3).2.dropLast = ["  livemd", "  one"] := by
    show (Screen.rows layout 9 3 ({ pager with scroll }.resize 3).scroll _ _).dropLast = _
    rw [Screen.rows_eq layout (by decide) (by decide), List.dropLast_concat, top]
    show _ :: (List.range 1).map
      (fun index => Screen.bodyText (pager.pageRows layout 9)[0 + index]?) = _
    rw [words]
    decide +kernel
  have hidden (scroll : Nat) : ¬ ({ pager with scroll }.resize 3).EndInView layout 9 3 := by
    rw [Pager.endInView_resize_iff lawful (by decide) (by decide)]
    show ¬ (pager.pageRows layout 9).length ≤ min scroll (saturate (pager.lineCount - 1)) + 1
    rw [words, count]
    show ¬ 3 ≤ min scroll 0 + 1
    omega
  exact ⟨count, words, screen _, hidden _⟩

end Plan

end MarkdownPager
