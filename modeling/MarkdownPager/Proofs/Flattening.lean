import Mathlib.Data.List.Induction
import MarkdownPager.Proofs.Alike
import MarkdownPager.Proofs.Lines
import MarkdownPager.Proofs.Walk

/-!
# The text of running text

Running text is flattened to a text in two ways.  `Inline.plainText` reads it off the tree and
writes a line feed for a hard break.  Rendering makes lines, and their texts are joined with line
feeds.  The two treat images and raw HTML differently; apart from those they agree up to the end of
the text.

Both go through the same walk.  `LineBuilder.text` is the text of the lines so far, the current line
included even if there is nothing on it, and each visit adds to it what it adds to the other
(`LineBuilder.text_foldl_visit`).  At the end the current line is dropped if there is nothing on it.
This costs a line feed if a line was ended before, which is the case if nothing is shown and no link
begins behind a hard break (`LineBuilder.pending_foldl_visit_iff`).
-/

namespace MarkdownPager

universe u

/-! ## The text of the tree -/

/-- What an inline adds to the text by itself, apart from what is inside. -/
def Inline.ownPlain : Inline → String
  | .text t | .code t | .html t => t
  | .image _ alt => alt
  | .softBreak => " "
  | .hardBreak => "\n"
  | .taskMarker done => taskBox done
  | .footnoteRef name => footnoteMark name
  | .emphasis _ | .strong _ | .strikethrough _ | .link .. => ""

/-- Whether an inline is raw HTML. -/
def Inline.isHtml : Inline → Bool
  | .html _ => true
  | _ => false

/-- Whether an inline is an image. -/
def Inline.isImage : Inline → Bool
  | .image .. => true
  | _ => false

mutual

theorem Inline.plain_eq_join : ∀ (inline : Inline) (within : List Markup),
    inline.plain = String.join ((inline.visits within).map (·.inline.ownPlain))
  | .text _, _ | .code _, _ | .html _, _ | .image .., _ | .softBreak, _ | .hardBreak, _
  | .taskMarker _, _ | .footnoteRef _, _ => by
      rw [Inline.plain, Inline.visits, List.map_singleton, Inline.ownPlain, String.join_cons,
        String.join_nil, String.append_empty]
  | .emphasis children, within | .strong children, within | .strikethrough children, within
  | .link _ children, within => by
      rw [Inline.plain, Inline.visits, List.map_cons, String.join_cons, Inline.ownPlain,
        String.empty_append]
      exact Inline.plainText_eq_join children _

theorem Inline.plainText_eq_join : ∀ (inlines : List Inline) (within : List Markup),
    plainText inlines = String.join ((visitsOfAll within inlines).map (·.inline.ownPlain))
  | [], _ => by
      rw [Inline.plainText, Inline.visitsOfAll]
      rfl
  | inline :: rest, within => by
      rw [Inline.plainText, Inline.visitsOfAll, List.map_append, String.join_append,
        ← Inline.plain_eq_join inline within, ← Inline.plainText_eq_join rest within]

end

/-- Apart from images and raw HTML, an inline adds the text that it shows, and a hard break adds a
line feed. -/
theorem Inline.ownPlain_eq {inline : Inline} (noHtml : inline.isHtml = false)
    (noImage : inline.isImage = false) :
    inline.ownPlain = if inline.isHardBreak then "\n" else inline.ownText := by
  cases inline with
  | html => cases noHtml
  | image => cases noImage
  | _ => rfl

/-! ## The text of the lines -/

/-- More text at the end of the last of several texts. -/
theorem Text.intercalate_concat_append (separator : String) (texts : List String)
    (last more : String) : separator.intercalate (texts ++ [last ++ more]) =
      separator.intercalate (texts ++ [last]) ++ more := by
  cases texts with
  | nil => rw [List.nil_append, List.nil_append, String.intercalate_singleton,
      String.intercalate_singleton]
  | cons text texts =>
      rw [String.intercalate_append_of_ne_nil (List.cons_ne_nil _ _) (List.cons_ne_nil _ _),
        String.intercalate_append_of_ne_nil (List.cons_ne_nil _ _) (List.cons_ne_nil _ _),
        String.intercalate_singleton, String.intercalate_singleton, ← String.append_assoc]

namespace LineBuilder

/-- The text of the lines so far, with the current one even if there is nothing on it. -/
def text (builder : LineBuilder) : String :=
  "\n".intercalate (builder.lines.map (·.plain) ++ [builder.current.plain])

variable (appearance : Appearance) (base : TextStyle) (builder : LineBuilder)

theorem text_pushText (text : String) (style : TextStyle) :
    (builder.pushText text style).text = builder.text ++ text := by
  unfold pushText
  split
  · rename_i empty
    rw [empty, String.append_empty]
  · exact Text.intercalate_concat_append ..

theorem text_breakLine : builder.breakLine.text = builder.text ++ "\n" := by
  rw [breakLine, text, text, List.map_append, List.map_singleton,
    String.intercalate_append_of_ne_nil (by simp) (List.cons_ne_nil _ _),
    String.intercalate_singleton]
  exact String.append_empty

theorem text_visit (visit : Visit) :
    (builder.visit appearance base visit).text = builder.text ++
      if visit.inline.isHardBreak then "\n" else visit.inline.ownText := by
  rcases visit_cases appearance base builder visit with
    ⟨link, -, other, empty, step⟩ | ⟨-, hard, -, step⟩ | ⟨-, other, step⟩
  · rw [step, other, empty]
    exact String.append_empty.symm
  · rw [step, hard, text_breakLine]
    rfl
  · rw [step, other, text_pushText]
    rfl

/-- **The walk adds to the lines what it adds to the text.** -/
theorem text_foldl_visit (visits : List Visit)
    (literal : ∀ visit ∈ visits, visit.inline.isHtml = false ∧ visit.inline.isImage = false) :
    ∀ builder : LineBuilder, (visits.foldl (visit appearance base) builder).text =
      builder.text ++ String.join (visits.map (·.inline.ownPlain)) := by
  induction visits with
  | nil => exact fun builder => String.append_empty.symm
  | cons first visits ih =>
      intro builder
      obtain ⟨noHtml, noImage⟩ := literal first List.mem_cons_self
      rw [List.foldl_cons, ih (fun visit member => literal visit (List.mem_cons_of_mem _ member)),
        text_visit, List.map_cons, String.join_cons, Inline.ownPlain_eq noHtml noImage,
        String.append_assoc]

end LineBuilder

/-! ## The end of the text -/

/-- **Visits that end in a hard break**: behind one of them nothing is shown and no link begins. -/
def Visit.EndInBreak (visits : List Visit) : Prop :=
  ∃ before hard behind, visits = before ++ hard :: behind ∧ hard.inline.isHardBreak = true ∧
    ∀ visit ∈ behind, visit.inline.ownText = "" ∧ visit.inline.isLink = false

theorem Visit.not_endInBreak_nil : ¬ EndInBreak [] := by
  rintro ⟨before, hard, behind, visits, -⟩
  cases before <;> cases visits

/-- One more visit at the end. -/
theorem Visit.endInBreak_concat (visits : List Visit) (last : Visit) :
    EndInBreak (visits ++ [last]) ↔ last.inline.isHardBreak = true ∨
      last.inline.ownText = "" ∧ last.inline.isLink = false ∧ EndInBreak visits := by
  constructor
  · rintro ⟨before, hard, behind, split, breaks, silent⟩
    rcases List.eq_nil_or_concat' behind with rfl | ⟨behind, final, rfl⟩
    · obtain ⟨-, same⟩ := List.append_inj' split rfl
      exact .inl (List.singleton_inj.mp same ▸ breaks)
    · rw [← List.cons_append, ← List.append_assoc] at split
      obtain ⟨rfl, same⟩ := List.append_inj' split rfl
      obtain rfl := List.singleton_inj.mp same
      obtain ⟨empty, other⟩ := silent last (by simp)
      refine .inr ⟨empty, other, before, hard, behind, rfl, breaks, fun visit member => ?_⟩
      exact silent visit (List.mem_append_left _ member)
  · rintro (breaks | ⟨empty, other, before, hard, behind, rfl, breaks, silent⟩)
    · exact ⟨visits, last, [], rfl, breaks, by simp⟩
    · refine ⟨before, hard, behind ++ [last], by simp, breaks, fun visit member => ?_⟩
      rcases List.mem_append.mp member with member | member
      · exact silent visit member
      · rw [List.mem_singleton.mp member]
        exact ⟨empty, other⟩

namespace LineBuilder

/-- A line was ended, and there is nothing on the next one. -/
structure Pending (builder : LineBuilder) : Prop where
  ended : builder.lines ≠ []
  segments : builder.current.segments = []
  links : builder.current.links = []

variable (appearance : Appearance) (base : TextStyle)

theorem pending_visit_iff (builder : LineBuilder) (visit : Visit) :
    (builder.visit appearance base visit).Pending ↔ visit.inline.isHardBreak = true ∨
      visit.inline.ownText = "" ∧ visit.inline.isLink = false ∧ builder.Pending := by
  rcases visit_cases appearance base builder visit with
    ⟨link, isLink, other, -, step⟩ | ⟨-, hard, -, step⟩ | ⟨isText, other, step⟩
  · have busy : ¬ (builder.pushLink link).Pending := fun pending => by
      simpa [pushLink] using pending.links
    simp [step, isLink, other, busy]
  · have fresh : builder.breakLine.Pending := ⟨by simp [breakLine], rfl, rfl⟩
    simp [step, hard, fresh]
  · by_cases empty : visit.inline.ownText = ""
    · simp [step, isText, other, empty, pushText_empty]
    · have busy : ¬ (builder.pushText visit.inline.ownText (visit.style appearance base)).Pending :=
        fun pending => by simpa [pushText, empty] using pending.segments
      simp [step, other, empty, busy]

/-- **What a walk leaves pending** is a line behind a hard break. -/
theorem pending_foldl_visit_iff (visits : List Visit) :
    (visits.foldl (visit appearance base) {}).Pending ↔ Visit.EndInBreak visits := by
  induction visits using List.reverseRecOn with
  | nil => exact iff_of_false (fun pending => pending.ended rfl) Visit.not_endInBreak_nil
  | append_singleton visits last ih =>
      rw [List.foldl_append, List.foldl_cons, List.foldl_nil, pending_visit_iff, ih,
        Visit.endInBreak_concat]

variable {builder : LineBuilder}

/-- A line that is pending is lost at the end, and with it the line feed in front of it. -/
theorem Pending.text_eq (pending : builder.Pending)
    (plain : builder.current.segments = [] → builder.current.plain = "") :
    builder.text = "\n".intercalate (builder.finish.map (·.plain)) ++ "\n" := by
  have dropped : builder.finish = builder.lines := by
    simp [finish, pending.segments, pending.links]
  rw [text, dropped, plain pending.segments,
    String.intercalate_append_of_ne_nil (by simpa using pending.ended) (List.cons_ne_nil _ _),
    String.intercalate_singleton, String.append_empty]

theorem text_eq_of_not_pending (other : ¬ builder.Pending)
    (plain : builder.current.segments = [] → builder.current.plain = "") :
    builder.text = "\n".intercalate (builder.finish.map (·.plain)) := by
  rw [text]
  rcases builder.finish_cases with ⟨segments, links, dropped⟩ | kept
  · have none : builder.lines = [] := by
      by_contra ended
      exact other ⟨ended, segments, links⟩
    rw [dropped, none, plain segments]
    rfl
  · rw [kept, List.map_append, List.map_singleton]

end LineBuilder

namespace Renderer

/-- There is no text on a line without segments. -/
theorem plain_current_foldl_visit (appearance : Appearance) (base : TextStyle)
    (inlines : List Inline) :
    let builder := (Inline.visitsOfAll [] inlines).foldl (LineBuilder.visit appearance base) {}
    builder.current.segments = [] → builder.current.plain = "" := by
  intro builder empty
  have alike := addInlines_alike appearance appearance base inlines (.ofMarkup [])
    LineBuilder.alike_empty
  rw [addInlines_eq_foldl] at alike
  rw [alike.current.plain_eq_join, RenderedLine.texts, empty]
  rfl

/-- **Both flattenings agree**, up to a line feed at the end.  Take running text without raw HTML
and images at any depth, and render it as a paragraph.  If behind one of its hard breaks nothing is
shown and no link begins, then the text of the paragraph lacks the last line feed of the flattened
text, and nothing else.  In all other cases they are the same. -/
theorem plain_paragraph_eq_plainText {σ : Type u} (renderer : Renderer σ) (id : NodeId) (span : Span)
    (inlines : List Inline)
    (literal : ∀ visit ∈ Inline.visitsOfAll [] inlines,
      visit.inline.isHtml = false ∧ visit.inline.isImage = false) :
    let plain := (renderer.render ⟨id, span, .paragraph inlines⟩).plain
    (Visit.EndInBreak (Inline.visitsOfAll [] inlines) ↔ Inline.plainText inlines = plain ++ "\n") ∧
    (¬ Visit.EndInBreak (Inline.visitsOfAll [] inlines) ↔ Inline.plainText inlines = plain) := by
  intro plain
  let builder := (Inline.visitsOfAll [] inlines).foldl (LineBuilder.visit renderer.appearance {}) {}
  have shown : plain = "\n".intercalate (builder.finish.map (·.plain)) := by
    show Text.join "\n" ((blockLines renderer (.paragraph inlines)).map (·.plain)) = _
    rw [blockLines, inlineLines_eq_foldl, Text.join_eq_intercalate]
  have text : builder.text = Inline.plainText inlines := by
    rw [LineBuilder.text_foldl_visit _ _ _ literal, Inline.plainText_eq_join inlines []]
    exact String.empty_append
  have current := plain_current_foldl_visit renderer.appearance {} inlines
  have pending : builder.Pending ↔ Visit.EndInBreak (Inline.visitsOfAll [] inlines) :=
    LineBuilder.pending_foldl_visit_iff renderer.appearance {} _
  have longer : plain ≠ plain ++ "\n" := by
    intro same
    have lengths := congrArg String.length same
    simp at lengths
  rw [← pending, ← text]
  by_cases ends : builder.Pending
  · have cut : builder.text = plain ++ "\n" := shown ▸ ends.text_eq current
    exact ⟨iff_of_true ends cut, iff_of_false (not_not_intro ends) (cut ▸ longer.symm)⟩
  · have same : builder.text = plain := shown ▸ LineBuilder.text_eq_of_not_pending ends current
    exact ⟨iff_of_false ends (same ▸ longer), iff_of_true ends same⟩

/-- Two hard breaks in a link, with an empty text behind; and a link without a text behind a hard
break, which keeps the last line. -/
theorem plain_paragraph_eq_plainText_empty_ends :
    let renderer : Renderer Unit := ⟨fun _ => none, fun _ => [], .dark⟩
    let plain := fun inlines => (renderer.render ⟨⟨0⟩, ⟨0, 0⟩, .paragraph inlines⟩).plain
    let literal := fun inlines => ∀ visit ∈ Inline.visitsOfAll [] inlines,
      visit.inline.isHtml = false ∧ visit.inline.isImage = false
    let cut : List Inline :=
      [.text "a", .link "u" [.hardBreak, .hardBreak], .emphasis [.text ""]]
    let whole : List Inline := [.text "a", .strong [.hardBreak], .link "u" []]
    literal cut ∧ Visit.EndInBreak (Inline.visitsOfAll [] cut) ∧
      Inline.plainText cut = plain cut ++ "\n" ∧ plain cut = "a\n" ∧
    literal whole ∧ ¬ Visit.EndInBreak (Inline.visitsOfAll [] whole) ∧
      Inline.plainText whole = plain whole ∧ plain whole = "a\n" := by
  intro renderer plain literal cut whole
  have literal_cut : literal cut := by decide
  have literal_whole : literal whole := by decide
  obtain ⟨ends, -⟩ := plain_paragraph_eq_plainText renderer ⟨0⟩ ⟨0, 0⟩ cut literal_cut
  obtain ⟨-, stays⟩ := plain_paragraph_eq_plainText renderer ⟨0⟩ ⟨0, 0⟩ whole literal_whole
  have broken : Visit.EndInBreak (Inline.visitsOfAll [] cut) := ends.mpr rfl
  have unbroken : ¬ Visit.EndInBreak (Inline.visitsOfAll [] whole) := stays.mpr rfl
  exact ⟨literal_cut, broken, ends.mp broken, rfl, literal_whole, unbroken, stays.mp unbroken, rfl⟩

end Renderer

end MarkdownPager
