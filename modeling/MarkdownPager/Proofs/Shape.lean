import MarkdownPager.Markdown.Blocks
import MarkdownPager.Proofs.Markup
import MarkdownPager.Proofs.Nesting

/-!
# Every text has the shape

`Markdown.eventsOf` gives the events of a shaped forest for every text there is, which is all that is
asked of a reader of Markdown (`Markdown.reads_eventsOf`).

The block structure is read with a stack of open containers.  Two things are kept by every step: an
item stands directly in a list and nothing else does, and what is closed goes into a container that
may hold it.  Blocks that hold no blocks are only added when the innermost container is no list,
which is what `finishList` is for.

* `Blocks.IsNested` — the invariant, with one lemma for each step that changes the stack.
* `Blocks.isNested_readLines` — a whole text.
* `Markdown.areShaped_treesOfText` — a text.
-/

namespace MarkdownPager

namespace Markdown

namespace Outline

mutual

/-- Whether the lists in an outline hold nothing but items. -/
def isShaped : Outline → Bool
  | .list _ _ _ items => areItems items
  | .item _ children | .quote _ children | .footnote _ children => areShaped children
  | _ => true

/-- Whether all outlines have the shape. -/
def areShaped : List Outline → Bool
  | [] => true
  | outline :: rest => outline.isShaped && areShaped rest

/-- Whether all outlines are items that have the shape. -/
def areItems : List Outline → Bool
  | [] => true
  | .item _ children :: rest => areShaped children && areItems rest
  | _ :: _ => false

end

/-- Whether an outline is an item that has the shape. -/
def isItem : Outline → Bool
  | .item _ children => areShaped children
  | _ => false

theorem areShaped_eq_all (outlines : List Outline) :
    areShaped outlines = outlines.all isShaped := by
  induction outlines with
  | nil => rfl
  | cons outline rest ih => rw [areShaped, ih, List.all_cons]

theorem areItems_eq_all (outlines : List Outline) : areItems outlines = outlines.all isItem := by
  induction outlines with
  | nil => rfl
  | cons outline rest ih =>
      rw [List.all_cons, ← ih]
      cases outline <;> rfl

end Outline

/-! ## Trees of outlines -/

theorem Tree.areShaped_of_areMarkup {forest : List Tree} (markup : AreMarkup forest) :
    Tree.areShaped forest = true := by
  induction forest with
  | nil => rfl
  | cons tree rest ih =>
      rw [AreMarkup, List.forall_mem_cons] at markup
      rw [Tree.areShaped, Tree.isShaped_of_isMarkup markup.1, ih markup.2]
      rfl

theorem areMarkup_withTask {content : List Tree} (markup : AreMarkup content)
    (box : Option TaskMarker) : AreMarkup (withTask box content) := by
  cases box with
  | none => exact markup
  | some marker => exact List.forall_mem_cons.mpr ⟨rfl, markup⟩

namespace Outline

mutual

/-- The trees of a shaped outline have the shape. -/
theorem areShaped_trees (definitions : Definitions) :
    ∀ (outline : Outline) (tight : Bool) (budget : Nat), outline.isShaped = true →
      Tree.areShaped (outline.trees definitions tight budget).1 = true
  | .paragraph span box text, tight, budget, _ => by
      have content :=
        areMarkup_withTask (areMarkup_treesOfPieces definitions budget text.pieces) box
      rw [trees]
      cases tight with
      | true => exact Tree.areShaped_of_areMarkup content
      | false => rfl
  | .heading .., tight, budget, _ => rfl
  | .code span info lines, tight, budget, _ => by
      show ((lines.map _).all Tree.isLeaf && true) = true
      simp [Tree.isLeaf]
  | .rule _, tight, budget, _ => rfl
  | .raw _, tight, budget, _ => rfl
  | .task _, tight, budget, _ => rfl
  | .list span itemsTight start items, tight, budget, shaped => by
      show (Tree.areItems _ && true) = true
      rw [areItems_treesOf definitions items itemsTight budget shaped, Bool.and_true]
  | .item .., tight, budget, _ => rfl
  | .quote span children, tight, budget, shaped => by
      show (Tree.areShaped _ && true) = true
      rw [areShaped_treesOf definitions children false budget shaped, Bool.and_true]
  | .footnote .., tight, budget, _ => rfl

theorem areShaped_treesOf (definitions : Definitions) :
    ∀ (outlines : List Outline) (tight : Bool) (budget : Nat), areShaped outlines = true →
      Tree.areShaped (treesOf definitions tight budget outlines).1 = true
  | [], tight, budget, _ => rfl
  | outline :: rest, tight, budget, shaped => by
      rw [areShaped, Bool.and_eq_true] at shaped
      rw [treesOf, Tree.areShaped_append,
        areShaped_trees definitions outline tight budget shaped.1,
        areShaped_treesOf definitions rest tight _ shaped.2]
      rfl

theorem areItems_treesOf (definitions : Definitions) :
    ∀ (outlines : List Outline) (tight : Bool) (budget : Nat), areItems outlines = true →
      Tree.areItems (treesOf definitions tight budget outlines).1 = true
  | [], tight, budget, _ => rfl
  | .item span children :: rest, tight, budget, shaped => by
      rw [areItems, Bool.and_eq_true] at shaped
      show (Tree.areShaped (treesOf definitions tight budget children).1 &&
        Tree.areItems (treesOf definitions tight _ rest).1) = true
      rw [areShaped_treesOf definitions children tight budget shaped.1,
        areItems_treesOf definitions rest tight _ shaped.2]
      rfl

end

end Outline

/-! ## The stack of containers -/

namespace Container

/-- Whether a container is a list. -/
def isList : Container → Bool
  | .list .. => true
  | _ => false

/-- Whether a container is a list item. -/
def isItem : Container → Bool
  | .item _ => true
  | _ => false

end Container

/-- Whether the innermost of open containers is a list. -/
def insideList : List Frame → Bool
  | [] => false
  | frame :: _ => frame.container.isList

/-- Whether a container may hold what it holds. -/
def Frame.holds (frame : Frame) : Bool :=
  if frame.container.isList then Outline.areItems frame.children
  else Outline.areShaped frame.children

/-- Open containers of which just the items stand directly in lists, and which may all hold what
they hold. -/
inductive AreNested : List Frame → Prop
  | nil : AreNested []
  | cons {frame : Frame} {outer : List Frame} (holds : frame.holds = true)
      (place : frame.container.isItem = insideList outer) (rest : AreNested outer) :
      AreNested (frame :: outer)

theorem AreNested.of_append {rest : List Frame} : ∀ {inner : List Frame},
    AreNested (inner ++ rest) → AreNested rest
  | [], nested => nested
  | _ :: _, .cons _ _ more => AreNested.of_append more

/-- The outer containers may be exchanged for others of the same kind. -/
theorem AreNested.exchange {rest other : List Frame} (nested : AreNested other)
    (same : insideList other = insideList rest) (inner : List Frame)
    (whole : AreNested (inner ++ rest)) : AreNested (inner ++ other) := by
  induction inner with
  | nil => exact nested
  | cons frame inner ih =>
      cases whole with
      | cons holds place more =>
          refine .cons holds ?_ (ih more)
          rw [place]
          cases inner with
          | nil => exact same.symm
          | cons second inner => rfl

/-- A container that closes has the shape, and an item is an item. -/
theorem Frame.isShaped_close {frame : Frame} (holds : frame.holds = true) (stop : Nat) :
    (frame.close stop).isShaped = true := by
  obtain ⟨container, start, children⟩ := frame
  cases container with
  | list tight marker =>
      have items : Outline.areItems children = true := holds
      show Outline.areItems children.reverse = true
      rw [Outline.areItems_eq_all] at items ⊢
      rwa [List.all_reverse]
  | _ =>
      have shaped : Outline.areShaped children = true := holds
      show Outline.areShaped children.reverse = true
      rw [Outline.areShaped_eq_all] at shaped ⊢
      rwa [List.all_reverse]

theorem Frame.isItem_close {frame : Frame} (holds : frame.holds = true)
    (item : frame.container.isItem = true) (stop : Nat) :
    (frame.close stop).isItem = true := by
  have shaped := isShaped_close holds stop
  obtain ⟨container, start, children⟩ := frame
  cases container with
  | item indentation => exact shaped
  | _ => exact absurd item Bool.false_ne_true

namespace Blocks

/-- What the block structure keeps while a text is read. -/
structure IsNested (blocks : Blocks) : Prop where
  done : Outline.areShaped blocks.done = true
  frames : AreNested blocks.frames

variable {blocks : Blocks}

theorem isNested_start : start.IsNested := ⟨rfl, .nil⟩

/-- Whether a block may stand in the innermost container. -/
def fits (block : Outline) (blocks : Blocks) : Bool :=
  if insideList blocks.frames then block.isItem else block.isShaped

/-- A block that fits is added. -/
theorem IsNested.add (nested : blocks.IsNested) (block : Outline)
    (fit : blocks.fits block = true) : (blocks.add block).IsNested := by
  obtain ⟨done, frames⟩ := nested
  rw [Blocks.add.eq_def]
  rw [fits] at fit
  split
  · rename_i empty
    rw [empty] at fit
    refine ⟨?_, empty ▸ .nil⟩
    rw [Outline.areShaped, done]
    simpa [insideList] using fit
  · rename_i frame outer open'
    rw [open'] at fit frames
    cases frames with
    | cons holds place rest =>
        refine ⟨done, .cons ?_ place rest⟩
        unfold Frame.holds at holds ⊢
        by_cases list : frame.container.isList
        · simp_all [insideList, Outline.areItems_eq_all]
        · simp_all [insideList, Outline.areShaped_eq_all]

/-- Adding a block leaves the containers open. -/
theorem insideList_add (block : Outline) (blocks : Blocks) :
    insideList (blocks.add block).frames = insideList blocks.frames := by
  rw [Blocks.add.eq_def]
  split
  · rfl
  · rename_i frame outer open'
    rw [open']
    rfl

/-- A container is opened where it may stand. -/
theorem IsNested.push (nested : blocks.IsNested) (container : Container)
    (place : container.isItem = insideList blocks.frames) (start : Nat) :
    (blocks.push container start).IsNested := by
  refine ⟨nested.done, .cons ?_ place nested.frames⟩
  unfold Frame.holds
  split <;> rfl

/-- **The innermost container is closed**, and fits where it goes. -/
theorem IsNested.pop (nested : blocks.IsNested) (stop : Nat) : (blocks.pop stop).IsNested := by
  rw [Blocks.pop.eq_def]
  split
  · exact nested
  · rename_i frame outer open'
    have frames := nested.frames
    rw [open'] at frames
    cases frames with
    | cons holds place rest =>
        have inner : IsNested { blocks with frames := outer } := ⟨nested.done, rest⟩
        -- If the container behind is a list, what closes is an item.
        refine inner.add _ ?_
        show (if insideList outer then _ else _) = true
        rw [← place]
        split
        · rename_i item
          exact Frame.isItem_close holds item stop
        · exact Frame.isShaped_close holds stop

/-- Only an item stands in a list: when another container closes, none is innermost. -/
theorem IsNested.insideList_pop (nested : blocks.IsNested) {container : Container}
    (innermost : blocks.innermost? = some container) (other : container.isItem = false)
    (stop : Nat) : insideList (blocks.pop stop).frames = false := by
  have frames := nested.frames
  rw [innermost?] at innermost
  rw [Blocks.pop.eq_def]
  split
  · rename_i empty
    rw [empty]
    rfl
  · rename_i frame outer open'
    rw [open'] at frames innermost
    cases frames with
    | cons holds place rest =>
        rw [insideList_add]
        show insideList outer = false
        have same : frame.container = container := Option.some.inj innermost
        rw [← place, same, other]

theorem IsNested.popAll (stop n : Nat) : ∀ {blocks : Blocks}, blocks.IsNested →
    (blocks.popAll stop n).IsNested := by
  induction n with
  | zero => exact fun nested => nested
  | succ n ih => exact fun nested => ih (nested.pop stop)

/-! ## Steps -/

/-- Whether a list is loose changes nothing on the stack. -/
theorem IsNested.loosen (nested : blocks.IsNested) (index : Nat) :
    (blocks.loosen index).IsNested := by
  rw [Blocks.loosen.eq_def]
  split
  · rename_i tight marker start children outer inside
    have whole : AreNested (blocks.frames.take index ++ blocks.frames.drop index) := by
      rw [List.take_append_drop]
      exact nested.frames
    rw [inside] at whole
    cases AreNested.of_append whole with
    | cons holds place rest =>
        have loose : AreNested (⟨.list false marker, start, children⟩ :: outer) :=
          .cons holds place rest
        refine ⟨nested.done, loose.exchange ?_ _ whole⟩
        rfl
  · exact nested

theorem insideList_loosen (index : Nat) (blocks : Blocks) :
    insideList (blocks.loosen index).frames = insideList blocks.frames := by
  rw [Blocks.loosen.eq_def]
  split
  · rename_i tight marker start children outer inside
    cases index with
    | zero =>
        have whole : blocks.frames = _ := inside
        rw [whole]
        rfl
    | succ index =>
        cases frames : blocks.frames with
        | nil => simp [frames] at inside
        | cons frame rest => rfl
  · rfl

theorem IsNested.finishFreshItem (nested : blocks.IsNested) : blocks.finishFreshItem.IsNested := by
  rw [Blocks.finishFreshItem.eq_def]
  dsimp only
  split
  · split
    · exact ⟨(nested.pop _).done, (nested.pop _).frames⟩
    · exact ⟨nested.done, nested.frames⟩
  · exact ⟨nested.done, nested.frames⟩

theorem insideList_eq (blocks : Blocks) :
    insideList blocks.frames = blocks.innermost?.any Container.isList := by
  rw [innermost?]
  cases blocks.frames <;> rfl

/-- The innermost container is closed if it is a list. -/
theorem IsNested.closeList (nested : blocks.IsNested) (stop : Nat) :
    let closed := match blocks.innermost? with
      | some (.list ..) => blocks.pop stop
      | _ => blocks
    closed.IsNested ∧ insideList closed.frames = false := by
  dsimp only
  split
  · rename_i tight marker innermost
    exact ⟨nested.pop stop, nested.insideList_pop innermost rfl stop⟩
  · rename_i other
    refine ⟨nested, ?_⟩
    rw [insideList_eq]
    cases innermost : blocks.innermost? with
    | none => rfl
    | some container =>
        cases container with
        | list tight marker => exact absurd innermost (other tight marker)
        | _ => rfl

/-- The list at an index is made loose if the last line was empty. -/
theorem IsNested.loosenAfterBlank (nested : blocks.IsNested) (index : Nat) :
    let loose := if blocks.afterBlank then { blocks.loosen index with afterBlank := false }
      else blocks
    loose.IsNested ∧ insideList loose.frames = insideList blocks.frames := by
  dsimp only
  split
  · have loose := nested.loosen index
    exact ⟨⟨loose.done, loose.frames⟩, insideList_loosen index blocks⟩
  · exact ⟨nested, rfl⟩

/-- **A list that is not gone on with is closed**, and no other list is innermost then. -/
theorem IsNested.finishList (nested : blocks.IsNested) (stop : Nat) :
    (blocks.finishList stop).IsNested ∧ insideList (blocks.finishList stop).frames = false := by
  obtain ⟨closed, outside⟩ := nested.finishFreshItem.closeList stop
  obtain ⟨loose, same⟩ := closed.loosenAfterBlank 1
  exact ⟨loose, same.trans outside⟩

/-- A list is begun where none is innermost. -/
theorem IsNested.beginList (nested : blocks.IsNested) (outside : insideList blocks.frames = false)
    (start : Nat) (marker : Line.Marker) :
    let begun := { blocks.push (.list true marker) start with afterBlank := false }
    begun.IsNested ∧ insideList begun.frames = true := by
  have pushed : (blocks.push (.list true marker) start).IsNested :=
    nested.push (.list true marker) outside.symm start
  exact ⟨⟨pushed.done, pushed.frames⟩, rfl⟩

/-- **A list is gone on with or begun**, and is innermost then. -/
theorem IsNested.continueList (nested : blocks.IsNested) (start : Nat) (marker : Line.Marker) :
    (blocks.continueList start marker).IsNested ∧
      insideList (blocks.continueList start marker).frames = true := by
  have fresh := nested.finishFreshItem
  obtain ⟨finished, outside⟩ := fresh.finishList start
  rw [Blocks.continueList.eq_def]
  dsimp only
  split
  · rename_i innermost
    refine fresh.beginList ?_ start marker
    rw [insideList_eq, innermost]
    rfl
  · rename_i tight other innermost
    split
    · obtain ⟨loose, same⟩ := fresh.loosenAfterBlank 0
      refine ⟨loose, same.trans ?_⟩
      rw [insideList_eq, innermost]
      rfl
    · exact finished.beginList outside start marker
  · exact finished.beginList outside start marker

theorem IsNested.noteBlank (nested : blocks.IsNested) : blocks.noteBlank.IsNested := by
  have frames := nested.frames
  rw [Blocks.noteBlank.eq_def]
  split
  · exact nested
  · exact nested
  · rename_i indentation start children outer open'
    rw [open'] at frames
    cases frames with
    | cons holds place rest => exact ⟨nested.done, .cons holds place rest⟩
  · exact ⟨nested.done, nested.frames⟩

theorem IsNested.define (nested : blocks.IsNested) (label : List Char) (meaning : Meaning) :
    (blocks.define label meaning).IsNested := by
  rw [Blocks.define.eq_def]
  dsimp only
  split
  · exact nested
  · exact ⟨nested.done, nested.frames⟩

/-- The innermost container is closed if it is a footnote, and no list is innermost then. -/
theorem IsNested.closeFootnote (nested : blocks.IsNested)
    (outside : insideList blocks.frames = false) (stop : Nat) :
    let closed := match blocks.innermost? with
      | some .footnote => blocks.pop stop
      | _ => blocks
    closed.IsNested ∧ insideList closed.frames = false := by
  dsimp only
  split
  · rename_i innermost
    exact ⟨nested.pop stop, nested.insideList_pop innermost rfl stop⟩
  · exact ⟨nested, outside⟩

/-- A footnote is opened behind what it ends. -/
theorem IsNested.openFootnote (nested : blocks.IsNested) {cursor behind : Cursor} {opened : Blocks}
    (found : blocks.openFootnote? cursor = some (opened, behind)) : opened.IsNested := by
  rw [Blocks.openFootnote?.eq_def] at found
  split at found
  · split at found
    · rename_i name rest _
      obtain ⟨finished, outside⟩ := nested.finishList cursor.offset
      obtain ⟨closed, outside⟩ := finished.closeFootnote outside cursor.offset
      obtain ⟨rfl, -⟩ := Prod.mk.inj (Option.some.inj found)
      have defined : IsNested (defineFootnote name _) := ⟨closed.done, closed.frames⟩
      exact defined.push .footnote outside.symm cursor.offset
    · exact absurd found.symm (Option.some_ne_none _)
  · exact absurd found.symm (Option.some_ne_none _)

/-- An item is opened in a list. -/
theorem IsNested.openItem (nested : blocks.IsNested) (inside : insideList blocks.frames = true)
    (start columns : Nat) (content : Cursor) :
    (blocks.openItem start columns content).1.IsNested := by
  have item : (blocks.push (.item columns) start).IsNested :=
    nested.push (.item columns) inside.symm start
  rw [Blocks.openItem.eq_def]
  dsimp only
  split
  · exact ⟨item.done, item.frames⟩
  · split
    · exact item
    · split
      · rename_i done behind _ _
        have marked := item.add (.task ⟨⟨content.offset, behind.offset⟩, done⟩) rfl
        exact ⟨marked.done, marked.frames⟩
      · exact ⟨item.done, item.frames⟩

theorem IsNested.openContainers (lineStart fuel : Nat) : ∀ {cursor : Cursor} {blocks : Blocks},
    blocks.IsNested → (blocks.openContainers lineStart fuel cursor).1.IsNested := by
  induction fuel with
  | zero => exact fun nested => nested
  | succ fuel ih =>
      intro cursor blocks nested
      rw [Blocks.openContainers.eq_def]
      dsimp only
      split
      · exact nested
      · split
        · rename_i opened behind found
          exact ih (nested.openFootnote found)
        · split
          · rename_i marker columns content _
            obtain ⟨continued, inside⟩ := nested.continueList cursor.offset marker
            have item := continued.openItem inside cursor.offset columns content
            split
            · rename_i read behind opened
              rw [opened] at item
              exact ih item
            · exact item
          · split
            · obtain ⟨finished, outside⟩ := nested.finishList lineStart
              exact ih (finished.push .quote outside.symm cursor.offset)
            · exact nested

/-! ## Lines -/

/-- A block that holds no blocks is added where no list is innermost. -/
theorem IsNested.addLeaf (nested : blocks.IsNested) (outside : insideList blocks.frames = false)
    {leaf : LeafBlock} (shaped : leaf.outline.isShaped = true) :
    (blocks.addLeaf leaf).1.IsNested := by
  refine nested.add leaf.outline ?_
  rw [fits, outside]
  exact shaped

theorem IsNested.readParagraph (nested : blocks.IsNested)
    (outside : insideList blocks.frames = false) (cursor : Cursor) :
    (blocks.readParagraph cursor).1.IsNested := by
  have ready : IsNested { blocks with task := none } := ⟨nested.done, nested.frames⟩
  refine ready.addLeaf outside ?_
  split
  · rename_i leaf found
    obtain ⟨rest, -, rfl⟩ := Option.map_eq_some_iff.mp (Option.ite_none_left_eq_some.mp found).2
    rfl
  · rw [LeafBlock.paragraph.eq_def]
    dsimp only
    split <;> rfl

/-- HTML blocks and rules hold nothing. -/
theorem isShaped_of_html_or_rule {containers : List Container} {cursor : Cursor} {leaf : LeafBlock}
    (found : (LeafBlock.html? containers cursor).or (LeafBlock.rule? cursor) = some leaf) :
    leaf.outline.isShaped = true := by
  rcases Option.or_eq_some_iff.mp found with html | ⟨-, rule⟩
  · rw [LeafBlock.html?.eq_def] at html
    split at html
    · obtain ⟨⟨stop, next⟩, -, rfl⟩ := Option.map_eq_some_iff.mp html
      rfl
    · exact absurd html.symm (Option.some_ne_none _)
  · obtain ⟨rest, -, rfl⟩ := Option.map_eq_some_iff.mp rule
    rfl

theorem IsNested.readLeaf (nested : blocks.IsNested) (outside : insideList blocks.frames = false)
    (indentation : Nat) (cursor : Cursor) : (blocks.readLeaf indentation cursor).1.IsNested := by
  rw [Blocks.readLeaf.eq_def]
  dsimp only
  split
  · rename_i leaf found
    exact nested.addLeaf outside (isShaped_of_html_or_rule found)
  · split
    · exact nested.addLeaf outside rfl
    · split
      · exact nested.addLeaf outside rfl
      · split
        · exact nested.define _ _
        · exact nested.readParagraph outside cursor

theorem IsNested.readContent (nested : blocks.IsNested) (lineStart : Nat) (cursor : Cursor) :
    (blocks.readContent lineStart cursor).1.IsNested := by
  rw [Blocks.readContent.eq_def]
  split
  · exact nested.noteBlank
  · obtain ⟨finished, outside⟩ := nested.finishList lineStart
    dsimp only
    split
    · apply IsNested.addLeaf
      · exact ⟨finished.done, finished.frames⟩
      · exact outside
      · rfl
    · exact finished.readLeaf outside _ _

/-- **One line more.** -/
theorem IsNested.readLine (nested : blocks.IsNested) (line : Cursor) :
    (blocks.readLine line).1.IsNested := by
  rw [Blocks.readLine.eq_def]
  dsimp only
  have entered := nested.popAll line.offset
    (blocks.containers.length - (Container.enterAll line blocks.containers).1)
  have opened : (Blocks.openContainers line.offset (line.rest.length + 1)
      (Container.enterAll line blocks.containers).2 _).1.IsNested :=
    entered.openContainers line.offset (line.rest.length + 1)
  split
  · rename_i read next same
    rw [same] at opened
    exact opened
  · rename_i read cursor same
    rw [same] at opened
    exact opened.readContent _ _

/-- **All lines.** -/
theorem isNested_readLines (fuel : Nat) : ∀ {line : Cursor} {blocks : Blocks}, blocks.IsNested →
    (blocks.readLines fuel line).IsNested := by
  induction fuel with
  | zero => exact fun nested => nested.popAll _ _
  | succ fuel ih =>
      intro line blocks nested
      rw [readLines]
      split
      · exact nested.popAll _ _
      · exact ih (nested.readLine line)

end Blocks

/-! ## Texts -/

/-- **Every text is read as a shaped forest.** -/
theorem areShaped_treesOfText (source : String) : Tree.areShaped (treesOfText source) = true := by
  have nested : (Blocks.ofText source.toList).IsNested :=
    Blocks.isNested_readLines _ Blocks.isNested_start
  refine Outline.areShaped_treesOf _ _ false _ ?_
  rw [Outline.areShaped_eq_all, List.all_reverse, ← Outline.areShaped_eq_all]
  exact nested.done

theorem reads_eventsOf (source : String) : Reader.Reads eventsOf source (treesOfText source) :=
  ⟨rfl, areShaped_treesOfText source⟩

end Markdown

end MarkdownPager
