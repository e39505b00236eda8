import Mathlib.Data.List.Basic
import MarkdownPager.Pager.Pager
import MarkdownPager.Proofs.Alike

/-!
# Rows of a page

Three parts of the pager count through a page, each in its own way: one makes its lines and reads
off how many there are so far, one notes on which line a link begins and carries an offset along,
and one adds up how many lines there are to scroll.  There is an empty line between two blocks, but
none in front of the first or behind the last, and a block may itself have no lines; each of the
three has to get that right on its own.

`rows` puts the lines of the blocks together without counting.  The lines that are shown, the lines
of the links and the number of lines are then read off the rows:

* `Pager.lines_eq` — a row is shown as it is, or standing out.
* `collectLinks_eq` — a link begins on the row that it was recorded on.
* `Pager.lineCount_eq` — there are as many lines as rows.
* `Pager.lines_and_links_agree` — what this means for a pager, and for selecting another link.
-/

namespace MarkdownPager

/-- The lines of all blocks, with an empty one between neighbours. -/
def rows (blocks : List RenderedBlock) : List RenderedLine :=
  List.intercalate [{}] (blocks.map (·.lines))

/-- The lines of blocks that stand below another one, with an empty line in front of each block. -/
def rowsBelow (blocks : List RenderedBlock) : List RenderedLine :=
  blocks.flatMap fun block => {} :: block.lines

theorem rowsBelow_cons (block : RenderedBlock) (rest : List RenderedBlock) :
    rowsBelow (block :: rest) = ({} :: block.lines) ++ rowsBelow rest :=
  List.flatMap_cons

/-- Only the first block has no empty line in front of it. -/
theorem rows_cons (block : RenderedBlock) (rest : List RenderedBlock) :
    rows (block :: rest) = block.lines ++ rowsBelow rest := by
  induction rest generalizing block with
  | nil => exact List.intercalate_singleton.trans (List.append_nil _).symm
  | cons next rest ih =>
      have first : rows (block :: next :: rest) = block.lines ++ {} :: rows (next :: rest) := by
        rw [rows, List.map_cons, List.map_cons, List.intercalate_cons_cons, List.append_assoc]
        rfl
      rw [first, ih, rowsBelow_cons, List.cons_append]

/-- Counting the lines of blocks below others leaves out the empty line in front of each. -/
theorem foldl_length_lines (blocks : List RenderedBlock) : ∀ count : Nat,
    blocks.foldl (fun count block => count + block.lines.length) count + blocks.length =
      count + (rowsBelow blocks).length := by
  induction blocks with
  | nil => exact fun _ => rfl
  | cons block rest ih =>
      intro count
      have counted := ih (count + block.lines.length)
      rw [List.foldl_cons, List.length_cons, rowsBelow_cons, List.length_append, List.length_cons]
      omega

/-- Between the blocks there is one row less than there are blocks. -/
theorem length_rows (blocks : List RenderedBlock) :
    (rows blocks).length =
      blocks.foldl (fun count block => count + block.lines.length) 0 + (blocks.length - 1) := by
  cases blocks with
  | nil => rfl
  | cons block rest =>
      have counted := foldl_length_lines rest (0 + block.lines.length)
      rw [rows_cons, List.length_append, List.foldl_cons, List.length_cons]
      omega

/-! ## Links -/

/-- The links that begin on a row. -/
def RenderedLine.linksAt (row : RenderedLine) (index : Nat) : List PageLink :=
  row.links.map fun link => ⟨link.label, link.url, index⟩

/-- What a link of a page has from the link that was recorded. -/
def PageLink.recorded (link : PageLink) : LinkTarget := ⟨link.label, link.target⟩

/-- The links of a block, counted from the line that the block begins on. -/
theorem linksFrom_eq (block : RenderedBlock) (offset : Nat) :
    block.linksFrom offset =
      (block.lines.zipIdx offset).flatMap fun (row, index) => row.linksAt index := by
  rw [RenderedBlock.linksFrom, RenderedBlock.links, List.map_flatMap,
    List.zipIdx_eq_map_add (i := offset), List.flatMap_map]
  simp only [List.map_map, Function.comp_def, RenderedLine.linksAt]

/-- Below another block, a link begins one line further down than the lines above say. -/
theorem toList_foldl_collectFrom (blocks : List RenderedBlock) :
    ∀ (index : Nat) (links : Array PageLink) (offset : Nat),
      ((blocks.zipIdx (index + 1)).foldl collectFrom (links, offset)).1.toList =
        links.toList ++
          ((rowsBelow blocks).zipIdx offset).flatMap fun (row, index) => row.linksAt index := by
  induction blocks with
  | nil => exact fun _ links _ => (List.append_nil links.toList).symm
  | cons block rest ih =>
      intro index links offset
      have step : collectFrom (links, offset) (block, index + 1) =
          (links ++ block.linksFrom (offset + 1), offset + 1 + block.lines.length) := rfl
      rw [List.zipIdx_cons, List.foldl_cons, step, ih, Array.toList_appendList, List.append_assoc,
        linksFrom_eq, ← List.flatMap_append, ← List.zipIdx_append, rowsBelow_cons, List.cons_append,
        List.zipIdx_cons, List.flatMap_cons]
      -- No link begins on the empty line.
      rfl

/-- **A link begins on the row that it was recorded on.** -/
theorem collectLinks_eq (blocks : List RenderedBlock) :
    collectLinks blocks = (rows blocks).zipIdx.flatMap fun (row, index) => row.linksAt index := by
  cases blocks with
  | nil => rfl
  | cons block rest =>
      have step : collectFrom (#[], 0) (block, 0) =
          (#[] ++ block.linksFrom 0, 0 + block.lines.length) := rfl
      rw [collectLinks, List.zipIdx_cons, List.foldl_cons, step, toList_foldl_collectFrom,
        Array.toList_appendList, linksFrom_eq, rows_cons, List.zipIdx_append, List.flatMap_append]
      rfl

/-- Collecting takes the links of the blocks, one block after the other. -/
theorem map_recorded_collectLinks (blocks : List RenderedBlock) :
    (collectLinks blocks).map PageLink.recorded =
      blocks.flatMap fun block => block.links.map (·.2) := by
  have collected : ∀ (entries : List (RenderedBlock × Nat)) (found : Array PageLink × Nat),
      (entries.foldl collectFrom found).1.toList.map PageLink.recorded =
        found.1.toList.map PageLink.recorded ++
          (entries.map (·.1)).flatMap fun block => block.links.map (·.2) := by
    intro entries
    induction entries with
    | nil => exact fun found => (List.append_nil _).symm
    | cons entry entries ih =>
        obtain ⟨block, index⟩ := entry
        rintro ⟨links, offset⟩
        rw [List.foldl_cons, ih, collectFrom, Array.toList_appendList, List.map_append,
          List.append_assoc, List.map_cons, List.flatMap_cons, RenderedBlock.linksFrom,
          List.map_map]
        rfl
  rw [collectLinks, collected, List.zipIdx_map_fst]
  rfl

/-- The indices of counted items rise. -/
theorem pairwise_zipIdx {α : Type} (items : List α) (offset : Nat) :
    (items.zipIdx offset).Pairwise fun first second => first.2 < second.2 := by
  rw [← List.pairwise_map, List.zipIdx_map_snd]
  exact List.pairwise_lt_range'

/-- **No link begins above an earlier one.** -/
theorem pairwise_collectLinks (blocks : List RenderedBlock) :
    (collectLinks blocks).Pairwise fun first second => first.line ≤ second.line := by
  rw [collectLinks_eq, List.pairwise_flatMap]
  refine ⟨fun ⟨row, index⟩ _ => ?_, (pairwise_zipIdx (rows blocks) 0).imp ?_⟩
  · dsimp only
    rw [RenderedLine.linksAt, List.pairwise_map]
    exact List.pairwise_of_forall fun _ _ => Nat.le_refl _
  · rintro ⟨row, index⟩ ⟨row', index'⟩ before link member link' member'
    obtain ⟨_, _, rfl⟩ := List.mem_map.mp member
    obtain ⟨_, _, rfl⟩ := List.mem_map.mp member'
    exact Nat.le_of_lt before

/-- There is a row where a link begins, and the link was recorded there. -/
theorem exists_row_of_mem_collectLinks {blocks : List RenderedBlock} {link : PageLink}
    (member : link ∈ collectLinks blocks) :
    ∃ row, (rows blocks)[link.line]? = some row ∧ link.recorded ∈ row.links := by
  rw [collectLinks_eq] at member
  obtain ⟨⟨row, index⟩, counted, among⟩ := List.mem_flatMap.mp member
  obtain ⟨target, recorded, rfl⟩ := List.mem_map.mp among
  exact ⟨row, List.mk_mem_zipIdx_iff_getElem?.mp counted, recorded⟩

namespace Pager

/-! ## Lines -/

/-- A row as it is shown. -/
def shown (selected : Option Nat) (row : RenderedLine) (index : Nat) : List Segment :=
  if selected = some index then highlighted row else row.segments

/-- **Standing out changes no text.** -/
theorem map_text_shown (selected : Option Nat) (row : RenderedLine) (index : Nat) :
    (shown selected row index).map (·.text) = row.texts := by
  rw [shown]
  split
  · rw [highlighted, List.map_map]
    rfl
  · rfl

/-- A line is shown at the place behind the lines above it.  Where nothing is on it, nothing can
stand out. -/
theorem addLine_eq (selected : Option Nat) (above : Array (List Segment)) (line : RenderedLine) :
    addLine selected above line = above.push (shown selected line above.size) := by
  rw [addLine, shown]
  by_cases here : selected = some above.size
  · rw [if_pos here]
    split
    · rename_i plain
      have empty : line.segments = [] := List.isEmpty_iff.mp (plain.resolve_left (· here))
      rw [highlighted, empty, List.map_nil]
    · rfl
  · rw [if_pos (.inl here), if_neg here]

/-- **A row is shown as it is, or standing out.** -/
theorem toList_foldl_addLine (selected : Option Nat) (lines : List RenderedLine) :
    ∀ above, (lines.foldl (addLine selected) above).toList =
      above.toList ++
        (lines.zipIdx above.size).map fun (row, index) => shown selected row index := by
  induction lines with
  | nil => exact fun above => (List.append_nil above.toList).symm
  | cons line rest ih =>
      intro above
      rw [List.foldl_cons, ih, addLine_eq, Array.toList_push, Array.size_push, List.append_assoc,
        List.zipIdx_cons, List.map_cons, List.singleton_append]

/-- Blocks below another one are added row by row. -/
theorem foldl_addBlock (selected : Option Nat) (blocks : List RenderedBlock) :
    ∀ index above, (blocks.zipIdx (index + 1)).foldl (addBlock selected) above =
      (rowsBelow blocks).foldl (addLine selected) above := by
  induction blocks with
  | nil => exact fun _ _ => rfl
  | cons block rest ih =>
      intro index above
      -- The empty line is added as a line that has nothing on it would be.
      have empty : addLine selected above {} = above.push [] := if_pos (.inr rfl)
      have step : addBlock selected above (block, index + 1) =
          ({} :: block.lines).foldl (addLine selected) above := by
        rw [List.foldl_cons, empty]
        rfl
      rw [List.zipIdx_cons, List.foldl_cons, step, ih, rowsBelow_cons, List.foldl_append]

variable {σ : Type} (pager : Pager σ)

theorem lines_eq :
    pager.lines = (rows pager.page.nodes).zipIdx.map fun (row, index) =>
      shown pager.selectedLine? row index := by
  have by_row : pager.page.nodes.zipIdx.foldl (addBlock pager.selectedLine?) #[] =
      (rows pager.page.nodes).foldl (addLine pager.selectedLine?) #[] := by
    cases pager.page.nodes with
    | nil => rfl
    | cons block rest =>
        have step : addBlock pager.selectedLine? #[] (block, 0) =
            block.lines.foldl (addLine pager.selectedLine?) #[] := rfl
        rw [List.zipIdx_cons, List.foldl_cons, step, foldl_addBlock, rows_cons, List.foldl_append]
  rw [lines, by_row, toList_foldl_addLine]
  rfl

/-- **There are as many lines as rows.** -/
theorem lineCount_eq : pager.lineCount = (rows pager.page.nodes).length :=
  (length_rows pager.page.nodes).symm

theorem getElem?_lines (index : Nat) :
    pager.lines[index]? =
      (rows pager.page.nodes)[index]?.map fun row => shown pager.selectedLine? row index := by
  rw [lines_eq, List.getElem?_map, List.getElem?_zipIdx, Option.map_map, Nat.zero_add]
  rfl

/-- The texts of the lines are those of the rows, whatever is selected. -/
theorem map_texts_lines :
    pager.lines.map (·.map (·.text)) = (rows pager.page.nodes).map (·.texts) := by
  rw [lines_eq, List.map_map]
  conv_rhs => rw [← List.zipIdx_map_fst 0 (rows pager.page.nodes), List.map_map]
  exact List.map_congr_left fun ⟨row, index⟩ _ => map_text_shown _ row index

/-- Pagers that show the same page differ in lines that stand out at most. -/
theorem getElem?_lines_of_nodes_eq (pager other : Pager σ)
    (same : other.page.nodes = pager.page.nodes) {index : Nat}
    (plain : pager.selectedLine? ≠ some index) (plain' : other.selectedLine? ≠ some index) :
    other.lines[index]? = pager.lines[index]? := by
  rw [getElem?_lines, getElem?_lines, same]
  simp only [shown, if_neg plain, if_neg plain']

/-- **One way of counting.**  A page has as many lines as the pager counts.  The links of the page are
those of its blocks, one block after the other, and none of them begins above an earlier one.  They
are those of the rows, from the first row to the last, each with the number of its row: the line of
that number is there, and has the text of the row.

Selecting another link changes no text, and no line but the one that stood out before and the one
that stands out now. -/
theorem lines_and_links_agree (pager : Pager σ) :
    let blocks := pager.page.nodes
    let links := collectLinks blocks
    pager.lines.length = pager.lineCount ∧
    links.map PageLink.recorded = blocks.flatMap (fun block => block.links.map (·.2)) ∧
    links.Pairwise (fun first second => first.line ≤ second.line) ∧
    links = (rows blocks).zipIdx.flatMap (fun (row, index) => row.linksAt index) ∧
    (∀ link ∈ links, link.line < pager.lineCount ∧
      ∃ row, (rows blocks)[link.line]? = some row ∧ link.recorded ∈ row.links ∧
        pager.lines[link.line]?.map (·.map (·.text)) = some row.texts) ∧
    ∀ selected, let other := { pager with selected }
      other.lines.map (·.map (·.text)) = pager.lines.map (·.map (·.text)) ∧
      ∀ index, pager.selectedLine? ≠ some index → other.selectedLine? ≠ some index →
        other.lines[index]? = pager.lines[index]? := by
  intro blocks links
  have length : pager.lines.length = pager.lineCount := by
    rw [lineCount_eq, lines_eq, List.length_map, List.length_zipIdx]
  refine ⟨length, map_recorded_collectLinks blocks, pairwise_collectLinks blocks,
    collectLinks_eq blocks, fun link member => ?_, fun selected =>
      ⟨?_, fun index => getElem?_lines_of_nodes_eq pager { pager with selected } rfl⟩⟩
  · obtain ⟨row, there, recorded⟩ := exists_row_of_mem_collectLinks member
    refine ⟨?_, row, there, recorded, ?_⟩
    · rw [lineCount_eq]
      exact (List.getElem?_eq_some_iff.mp there).1
    · rw [getElem?_lines, there, Option.map_some, Option.map_some, map_text_shown]
  · rw [map_texts_lines, map_texts_lines]

/-- A block without lines between two others: there are two empty lines in the middle. -/
theorem lines_and_links_agree_emptyBlock :
    let top : RenderedBlock := ⟨[⟨[⟨"Top", {}⟩], "Top", [⟨"Top", "#top"⟩]⟩]⟩
    let list : RenderedBlock := ⟨[⟨[⟨"a", {}⟩], "a", []⟩, ⟨[⟨"b", {}⟩], "b", [⟨"b", "b.md"⟩]⟩]⟩
    let themes : Themes := ⟨⟨none, []⟩, ⟨none, []⟩⟩
    let parsers : Parsers Unit := ⟨fun _ => [], fun _ => none⟩
    let page := { Page.start parsers themes .dark with nodes := [top, ⟨[]⟩, list] }
    let pager := Pager.start themes page none false ""
    let other := { pager with selected := some 1 }
    pager.lines.length = 5 ∧ pager.links = [⟨"Top", "#top", 0⟩, ⟨"b", "b.md", 4⟩] ∧
      pager.lines[4]?.map (·.map (·.text)) = some ["b"] ∧
      other.lines[2]? = pager.lines[2]? ∧ other.lines[4]? ≠ pager.lines[4]? := by
  intro top list themes parsers page pager other
  obtain ⟨count, -, -, -, placed, selecting⟩ := lines_and_links_agree pager
  have links : pager.links = [⟨"Top", "#top", 0⟩, ⟨"b", "b.md", 4⟩] := rfl
  obtain ⟨-, row, there, -, text⟩ := placed ⟨"b", "b.md", 4⟩ (by decide)
  obtain rfl := Option.some.inj there
  exact ⟨count, links, text, (selecting (some 1)).2 2 (by decide) (by decide), by decide⟩

end Pager

end MarkdownPager
