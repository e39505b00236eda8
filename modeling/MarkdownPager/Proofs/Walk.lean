import Mathlib.Data.List.Forall2
import MarkdownPager.Proofs.Surroundings

/-!
# Running text as a walk

Running text is a tree, and it is rendered by going through the tree once.  What is known of an
inline when its turn comes is the inline itself and the markup that it stands in.  `Inline.visits`
lists both, for every inline at every depth, in the order in which the inlines begin.

Rendering in given surroundings is nothing but one step for each visit, from the first to the last
(`Renderer.addInlines_eq_foldl`).  A step adds to the lines and keeps nothing else, so what it
makes of an inline cannot depend on what was there before.  Rendering that counts what is open does
the same, as every inline gives the counters back unchanged (`Renderer.pushInlines_eq`):

* `LineBuilder.segments_foldl_visit` — each visit that has a text makes a segment of its own.
* `Renderer.styles_from_ancestors` — the style of the segment is read off the markup around it.
-/

namespace MarkdownPager

universe u

/-- A kind of markup that changes how the text in it looks. -/
inductive Markup where
  | emphasis
  | strong
  | strikethrough
  | link
  deriving DecidableEq, Repr

/-- An inline and the markup that it stands in, the outermost first. -/
structure Visit where
  inline : Inline
  within : List Markup

mutual

/-- An inline and what is inside, at every depth, in the order in which they begin. -/
def Inline.visits (within : List Markup) (inline : Inline) : List Visit :=
  ⟨inline, within⟩ :: match inline with
    | .emphasis children => Inline.visitsOfAll (within ++ [.emphasis]) children
    | .strong children => Inline.visitsOfAll (within ++ [.strong]) children
    | .strikethrough children => Inline.visitsOfAll (within ++ [.strikethrough]) children
    | .link _ children => Inline.visitsOfAll (within ++ [.link]) children
    | .text _ | .code _ | .image .. | .softBreak | .hardBreak | .html _ | .taskMarker _
    | .footnoteRef _ => []

/-- The visits of inlines, one inline after the other. -/
def Inline.visitsOfAll (within : List Markup) : List Inline → List Visit
  | [] => []
  | inline :: rest => inline.visits within ++ Inline.visitsOfAll within rest

end

theorem Inline.visitsOfAll_eq_flatMap (within : List Markup) (inlines : List Inline) :
    visitsOfAll within inlines = inlines.flatMap (visits within) := by
  induction inlines with
  | nil => rfl
  | cons inline rest ih => rw [visitsOfAll, ih, List.flatMap_cons]

/-! ## Steps -/

/-- The text that an inline puts on a line by itself, apart from what is inside. -/
def Inline.ownText : Inline → String
  | .text t | .code t => t
  | .image url alt => Renderer.imageText url alt
  | .softBreak => " "
  | .taskMarker done => taskBox done
  | .footnoteRef name => footnoteMark name
  | .emphasis _ | .strong _ | .strikethrough _ | .link .. | .hardBreak | .html _ => ""

/-- The style of an inline that looks the same everywhere. -/
def Inline.ownStyle? (appearance : Appearance) : Inline → Option TextStyle
  | .code _ => some (Renderer.inlineCodeStyle appearance)
  | .image .. => some { foreground := some .lightBlue }
  | .taskMarker _ | .footnoteRef _ => some .muted
  | .text _ | .softBreak | .emphasis _ | .strong _ | .strikethrough _ | .link .. | .hardBreak
  | .html _ => none

/-- Whether an inline is text that looks as the markup around it says. -/
def Inline.isPlain : Inline → Bool
  | .text _ | .softBreak => true
  | _ => false

/-- Whether an inline is a link. -/
def Inline.isLink : Inline → Bool
  | .link .. => true
  | _ => false

/-- Whether an inline is a hard break. -/
def Inline.isHardBreak : Inline → Bool
  | .hardBreak => true
  | _ => false

namespace Renderer.Surroundings

/-- The surroundings that markup makes, however it is nested. -/
def ofMarkup (within : List Markup) : Surroundings where
  emphasis := .emphasis ∈ within
  strong := .strong ∈ within
  strikethrough := .strikethrough ∈ within
  link := .link ∈ within

/-- The surroundings inside of further markup. -/
def enter (around : Surroundings) : Markup → Surroundings
  | .emphasis => { around with emphasis := true }
  | .strong => { around with strong := true }
  | .strikethrough => { around with strikethrough := true }
  | .link => { around with link := true }

theorem ofMarkup_concat (within : List Markup) (markup : Markup) :
    ofMarkup (within ++ [markup]) = (ofMarkup within).enter markup := by
  cases markup <;> simp [ofMarkup, enter]

end Renderer.Surroundings

namespace Visit

variable (appearance : Appearance) (base : TextStyle)

/-- The style of what the visit puts on a line. -/
def style (visit : Visit) : TextStyle :=
  (visit.inline.ownStyle? appearance).getD
    ((Renderer.Surroundings.ofMarkup visit.within).style base)

/-- The segment that the visit makes, if there is any text in it. -/
def segment (visit : Visit) : Segment := ⟨visit.inline.ownText, visit.style appearance base⟩

/-- Whether the visit puts text on a line. -/
def hasText (visit : Visit) : Bool := visit.inline.ownText ≠ ""

end Visit

namespace LineBuilder

variable (appearance : Appearance) (base : TextStyle)

/-- **One step of the walk.**  A link is noted, a hard break ends the line, and everything else puts
its own text on the line, if it has one. -/
def visit (builder : LineBuilder) (visit : Visit) : LineBuilder :=
  match visit.inline with
  | .link url children => builder.pushLink ⟨Inline.plainText children, url⟩
  | .hardBreak => builder.breakLine
  | inline => builder.pushText inline.ownText (visit.style appearance base)

theorem pushText_empty (builder : LineBuilder) (style : TextStyle) :
    builder.pushText "" style = builder :=
  if_pos rfl

/-- Neither a link nor a hard break. -/
theorem visit_eq_pushText (builder : LineBuilder) {visit : Visit}
    (other : visit.inline.isLink = false) (other' : visit.inline.isHardBreak = false) :
    builder.visit appearance base visit =
      builder.pushText visit.inline.ownText (visit.style appearance base) := by
  obtain ⟨inline, within⟩ := visit
  cases inline with
  | link => cases other
  | hardBreak => cases other'
  | _ => rfl

/-- **What a step can do.** -/
theorem visit_cases (builder : LineBuilder) (visit : Visit) :
    (∃ link, visit.inline.isLink = true ∧ visit.inline.isHardBreak = false ∧
      visit.inline.ownText = "" ∧
      builder.visit appearance base visit = builder.pushLink link) ∨
    (visit.inline.isLink = false ∧ visit.inline.isHardBreak = true ∧ visit.inline.ownText = "" ∧
      builder.visit appearance base visit = builder.breakLine) ∨
    (visit.inline.isLink = false ∧ visit.inline.isHardBreak = false ∧
      builder.visit appearance base visit =
        builder.pushText visit.inline.ownText (visit.style appearance base)) := by
  cases link : visit.inline.isLink with
  | true =>
      obtain ⟨inline, within⟩ := visit
      cases inline with
      | link => exact .inl ⟨_, rfl, rfl, rfl, rfl⟩
      | _ => cases link
  | false =>
      cases hard : visit.inline.isHardBreak with
      | true =>
          obtain ⟨inline, within⟩ := visit
          cases inline with
          | hardBreak => exact .inr (.inl ⟨rfl, rfl, rfl, rfl⟩)
          | _ => cases hard
      | false => exact .inr (.inr ⟨rfl, rfl, visit_eq_pushText _ _ _ link hard⟩)

end LineBuilder

namespace Renderer

variable (appearance : Appearance) (base : TextStyle)

open LineBuilder (visit visit_eq_pushText pushText_empty)

mutual

theorem addInline_eq_foldl : ∀ (inline : Inline) (within : List Markup) (builder : LineBuilder),
    addInline appearance base (.ofMarkup within) inline builder =
      (inline.visits within).foldl (visit appearance base) builder
  | .text _, _, _ | .code _, _, _ | .image .., _, _ | .softBreak, _, _ | .hardBreak, _, _
  | .taskMarker _, _, _ | .footnoteRef _, _, _ => by
      rw [addInline, Inline.visits]
      rfl
  | .html _, within, builder => by
      rw [addInline, Inline.visits, List.foldl_cons, visit_eq_pushText _ _ _ rfl rfl]
      exact (pushText_empty builder _).symm
  | .emphasis children, within, builder | .strong children, within, builder
  | .strikethrough children, within, builder => by
      rw [addInline, Inline.visits, List.foldl_cons, visit_eq_pushText _ _ _ rfl rfl,
        ← addInlines_eq_foldl children, Surroundings.ofMarkup_concat, Inline.ownText,
        pushText_empty]
      rfl
  | .link url children, within, builder => by
      rw [addInline, Inline.visits, List.foldl_cons, ← addInlines_eq_foldl children,
        Surroundings.ofMarkup_concat]
      rfl

/-- **Rendering is a walk.**  Running text makes one step for each visit. -/
theorem addInlines_eq_foldl : ∀ (inlines : List Inline) (within : List Markup)
    (builder : LineBuilder),
    addInlines appearance base (.ofMarkup within) inlines builder =
      (Inline.visitsOfAll within inlines).foldl (visit appearance base) builder
  | [], _, builder => by
      rw [addInlines, Inline.visitsOfAll]
      rfl
  | inline :: rest, within, builder => by
      rw [addInlines, Inline.visitsOfAll, List.foldl_append, addInline_eq_foldl inline,
        addInlines_eq_foldl rest]

end

theorem inlineLines_eq_foldl (inlines : List Inline) :
    inlineLines appearance base inlines =
      ((Inline.visitsOfAll [] inlines).foldl (visit appearance base) {}).finish := by
  rw [inlineLines_eq, ← addInlines_eq_foldl]
  rfl

end Renderer

/-! ## Segments -/

/-- The segments on lines, from the first line to the last. -/
def segmentsOn (lines : List RenderedLine) : List Segment := lines.flatMap (·.segments)

theorem segmentsOn_concat (lines : List RenderedLine) (line : RenderedLine) :
    segmentsOn (lines ++ [line]) = segmentsOn lines ++ line.segments := by
  rw [segmentsOn, List.flatMap_append, List.flatMap_singleton, segmentsOn]

/-- The visits that put text on a line, in running text. -/
def Inline.textVisits (inlines : List Inline) : List Visit :=
  (visitsOfAll [] inlines).filter Visit.hasText

theorem Inline.textVisits_append (before behind : List Inline) :
    textVisits (before ++ behind) = textVisits before ++ textVisits behind := by
  rw [textVisits, visitsOfAll_eq_flatMap, List.flatMap_append, List.filter_append,
    ← visitsOfAll_eq_flatMap, ← visitsOfAll_eq_flatMap]
  rfl

namespace LineBuilder

variable (appearance : Appearance) (base : TextStyle) (builder : LineBuilder)

/-- The segments made so far. -/
def segments (builder : LineBuilder) : List Segment :=
  segmentsOn builder.lines ++ builder.current.segments

theorem segments_pushText {text : String} (nonempty : text ≠ "") (style : TextStyle) :
    (builder.pushText text style).segments = builder.segments ++ [⟨text, style⟩] := by
  rw [pushText, if_neg nonempty, segments, segments, List.append_assoc]

theorem segments_breakLine : builder.breakLine.segments = builder.segments := by
  rw [breakLine, segments, segmentsOn_concat, List.append_nil, segments]

/-- There is no segment on the line that is dropped at the end. -/
theorem segmentsOn_finish : segmentsOn builder.finish = builder.segments := by
  rw [segments]
  rcases builder.finish_cases with ⟨empty, -, dropped⟩ | kept
  · rw [dropped, empty, List.append_nil]
  · rw [kept, segmentsOn_concat]

/-- A visit makes a segment of its own, or none. -/
theorem segments_visit (visit : Visit) :
    (builder.visit appearance base visit).segments =
      builder.segments ++ ([visit].filter Visit.hasText).map (·.segment appearance base) := by
  have none : visit.inline.ownText = "" → [visit].filter Visit.hasText = [] := by
    intro empty
    simp [Visit.hasText, empty]
  rcases visit_cases appearance base builder visit with
    ⟨link, -, -, empty, step⟩ | ⟨-, -, empty, step⟩ | ⟨-, -, step⟩
  · rw [step, none empty]
    exact (List.append_nil _).symm
  · rw [step, none empty, segments_breakLine]
    exact (List.append_nil _).symm
  · by_cases empty : visit.inline.ownText = ""
    · rw [step, none empty, empty, pushText_empty]
      exact (List.append_nil _).symm
    · have some : [visit].filter Visit.hasText = [visit] := by simp [Visit.hasText, empty]
      rw [step, some, segments_pushText _ empty]
      rfl

/-- **Each visit with a text makes one segment**, and in the order of the visits. -/
theorem segments_foldl_visit (visits : List Visit) : ∀ builder : LineBuilder,
    (visits.foldl (visit appearance base) builder).segments =
      builder.segments ++ (visits.filter Visit.hasText).map (·.segment appearance base) := by
  induction visits with
  | nil => exact fun builder => (List.append_nil _).symm
  | cons first visits ih =>
      intro builder
      rw [List.foldl_cons, ih, segments_visit, List.append_assoc, ← List.map_append,
        ← List.filter_append, List.singleton_append]

end LineBuilder

/-! ## Styles -/

/-- **A style that is inherited** from a base style and from the markup around. -/
structure TextStyle.Inherited (base : TextStyle) (within : List Markup) (style : TextStyle) :
    Prop where
  italic : style.italic = true ↔ .emphasis ∈ within ∨ base.italic = true
  bold : style.bold = true ↔ .strong ∈ within ∨ base.bold = true
  crossedOut : style.crossedOut = true ↔ .strikethrough ∈ within ∨ base.crossedOut = true
  inLink : .link ∈ within →
    style.underlined = true ∧ style.foreground = some (.rgb Renderer.linkColor)
  outsideLinks : .link ∉ within →
    style.underlined = base.underlined ∧ style.foreground = base.foreground
  background : style.background = base.background

/-- **What a segment shows**: the text of an inline, in the style that is inherited, or in that
which the inline has wherever it stands. -/
structure Visit.ShownAs (appearance : Appearance) (base : TextStyle) (visit : Visit)
    (segment : Segment) : Prop where
  text : segment.text = visit.inline.ownText
  inherited : visit.inline.isPlain = true → TextStyle.Inherited base visit.within segment.style
  own : visit.inline.isPlain = false → visit.inline.ownStyle? appearance = some segment.style

/-- The running text of a block, with the style that it starts from. -/
def Block.runningText? : Block → Option (TextStyle × List Inline)
  | .paragraph inlines => some ({}, inlines)
  | .heading level inlines => some (Renderer.headingStyle level, inlines)
  | _ => none

namespace Visit

variable (appearance : Appearance) (base : TextStyle) {visit : Visit}

theorem inherited_ofMarkup (within : List Markup) :
    TextStyle.Inherited base within ((Renderer.Surroundings.ofMarkup within).style base) where
  italic := by simp [Renderer.Surroundings.style, Renderer.Surroundings.ofMarkup, or_comm]
  bold := by simp [Renderer.Surroundings.style, Renderer.Surroundings.ofMarkup, or_comm]
  crossedOut := by simp [Renderer.Surroundings.style, Renderer.Surroundings.ofMarkup, or_comm]
  inLink inside := by simp [Renderer.Surroundings.style, Renderer.Surroundings.ofMarkup, inside]
  outsideLinks outside := by
    simp [Renderer.Surroundings.style, Renderer.Surroundings.ofMarkup, outside]
  background := rfl

/-- Text that has no style of its own is plain. -/
theorem shownAs_segment (speaks : visit.hasText = true) :
    visit.ShownAs appearance base (visit.segment appearance base) where
  text := rfl
  inherited plain := by
    obtain ⟨inline, within⟩ := visit
    cases inline with
    | text | softBreak => exact inherited_ofMarkup base within
    | _ => cases plain
  own other := by
    obtain ⟨inline, within⟩ := visit
    cases inline with
    | code | image | taskMarker | footnoteRef => rfl
    | text | softBreak => cases other
    | emphasis | strong | strikethrough | link | hardBreak | html => cases speaks

/-- The style depends on the kinds of markup around, not on how often they are there. -/
theorem segment_congr {other : Visit} (inline : visit.inline = other.inline)
    (within : ∀ markup, markup ∈ visit.within ↔ markup ∈ other.within) :
    visit.segment appearance base = other.segment appearance base := by
  have around : Renderer.Surroundings.ofMarkup visit.within = .ofMarkup other.within := by
    simp only [Renderer.Surroundings.ofMarkup, within]
  rw [segment, segment, style, style, inline, around]

end Visit

namespace Renderer

theorem segmentsOn_inlineLines (appearance : Appearance) (base : TextStyle)
    (inlines : List Inline) :
    segmentsOn (inlineLines appearance base inlines) =
      (Inline.textVisits inlines).map (·.segment appearance base) := by
  rw [inlineLines_eq_foldl, LineBuilder.segmentsOn_finish, LineBuilder.segments_foldl_visit]
  rfl

/-- **Styles come from ancestors only.**  The segments of running text show the visits that have a
text, one each and in order.  Text and soft breaks are in the style that they inherit: the base
style, italic in emphasis, bold in strong emphasis, crossed out in strikethrough, and underlined in
the colour of links in a link.  All other leaves have a style of their own.

What stands before or behind makes no difference, and neither does markup that is repeated: two
leaves that are the same in the same kinds of markup are shown by the same segment, wherever they
are.

This is so because the counters of open markup come back from all running text as they were, from
whatever counts and in the middle of whatever lines it is rendered; what they say meanwhile is what
surrounds an inline.

Paragraphs and headings are rendered like that, and their base styles neither underline nor cross
out. -/
theorem styles_from_ancestors {σ : Type u} (renderer : Renderer σ) (base : TextStyle)
    (inlines : List Inline) :
    let segments := fun inlines => segmentsOn (inlineLines renderer.appearance base inlines)
    List.Forall₂ (Visit.ShownAs renderer.appearance base) (Inline.textVisits inlines)
      (segments inlines) ∧
    (∀ before behind, segments (before ++ inlines ++ behind) =
      segments before ++ segments inlines ++ segments behind) ∧
    (∀ (others : List Inline) (i j : Nat) (visit other : Visit),
      (Inline.textVisits inlines)[i]? = some visit → (Inline.textVisits others)[j]? = some other →
      visit.inline = other.inline → (∀ markup, markup ∈ visit.within ↔ markup ∈ other.within) →
      ∃ segment, (segments inlines)[i]? = some segment ∧ (segments others)[j]? = some segment) ∧
    (∀ (lines : LineBuilder) (state : InlineState),
      let pushed := pushInlines renderer.appearance base inlines lines state
      pushed.2 = state ∧
        pushed.1 = addInlines renderer.appearance base state.surroundings inlines lines) ∧
    ∀ node : Node, node.block.runningText? = some (base, inlines) →
      (renderer.render node).lines = inlineLines renderer.appearance base inlines ∧
        base.underlined = false ∧ base.crossedOut = false := by
  intro segments
  have shown : ∀ inlines : List Inline, segments inlines =
      (Inline.textVisits inlines).map (·.segment renderer.appearance base) :=
    segmentsOn_inlineLines renderer.appearance base
  refine ⟨?_, fun before behind => ?_, fun others i j visit other at_i at_j inline within => ?_,
    fun lines state => ?_, fun node running => ?_⟩
  · rw [shown, List.forall₂_map_right_iff, List.forall₂_same]
    exact fun visit member => Visit.shownAs_segment _ _ (List.mem_filter.mp member).2
  · rw [shown, shown, shown, shown, Inline.textVisits_append, Inline.textVisits_append,
      List.map_append, List.map_append]
  · refine ⟨visit.segment renderer.appearance base, ?_, ?_⟩
    · rw [shown, List.getElem?_map, at_i, Option.map_some]
    · rw [shown, List.getElem?_map, at_j, Option.map_some,
        Visit.segment_congr renderer.appearance base inline within]
  · rw [pushInlines_eq]
    exact ⟨rfl, rfl⟩
  · obtain ⟨id, span, block⟩ := node
    cases block with
    | paragraph =>
        obtain ⟨rfl, rfl⟩ := Prod.mk.inj (Option.some.inj running)
        exact ⟨by rw [render, blockLines], rfl, rfl⟩
    | heading =>
        obtain ⟨rfl, rfl⟩ := Prod.mk.inj (Option.some.inj running)
        exact ⟨by rw [render, blockLines], rfl, rfl⟩
    | _ => cases running

/-- A letter in three layers of markup, two of them emphasis, looks as in two layers. -/
theorem styles_from_ancestors_repeated_emphasis :
    let renderer : Renderer Unit := ⟨fun _ => none, fun _ => [], .dark⟩
    let deep : List Inline :=
      [.text "z", .emphasis [.code "b", .strong [.emphasis [.text "a"]]], .softBreak]
    let flat : List Inline := [.strong [.emphasis [.text "a"]]]
    let node : Node := ⟨⟨0⟩, ⟨0, 0⟩, .heading 1 deep⟩
    let segments := fun inlines => segmentsOn (inlineLines .dark (headingStyle 1) inlines)
    (Inline.textVisits deep)[2]? = some ⟨.text "a", [.emphasis, .strong, .emphasis]⟩ ∧
      (Inline.textVisits flat)[0]? = some ⟨.text "a", [.strong, .emphasis]⟩ ∧
      (∃ segment, (segments deep)[2]? = some segment ∧ (segments flat)[0]? = some segment) ∧
      (renderer.render node).lines = inlineLines .dark (headingStyle 1) deep := by
  intro renderer deep flat node segments
  obtain ⟨-, -, same, -, blocks⟩ := styles_from_ancestors renderer (headingStyle 1) deep
  have layers : ∀ markup : Markup,
      markup ∈ [.emphasis, .strong, .emphasis] ↔ markup ∈ [Markup.strong, .emphasis] := by
    intro markup
    cases markup <;> decide
  exact ⟨rfl, rfl, same flat 2 0 _ _ rfl rfl rfl layers, (blocks node rfl).1⟩

end Renderer

end MarkdownPager
