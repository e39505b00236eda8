import Mathlib.Data.List.Basic
import Mathlib.Data.Prod.Lex
import MarkdownPager.Highlight.Theme

/-!
# Which rule decides

The rules of a theme that match a stack of scopes compete for its style.  A rule ranks by the power
of its match and, behind that, by its place in the theme, so no two rules have the same rank.

## What is proved

* `perm_sortRanked`, `pairwise_sortRanked` — sorting loses nothing, and it is stable: what it orders
  by is the rank first, and the order of the input behind it.
* `isRanking_rankRules` — hence the matching rules come by falling rank, each of them once.
* `IsRanking.decidedBy_findSome?` — the first rule of a ranking that sets something is the highest
  one that does.
* `Theme.style_decided_by_rank` — both colours of a stack are decided in this way, each for itself,
  and its font joins the fonts of all matching rules.

Nothing is assumed of powers but that they can be compared.
-/

namespace MarkdownPager

universe u v w

/-! ## Sorting -/

section Order

variable {ρ : Type v} [LinearOrder ρ] {α : Type u}

/-- The order that sorting makes: by rank, and by another relation among equal ranks. -/
def Above (Earlier : α → α → Prop) (above below : ρ × α) : Prop :=
  below.1 < above.1 ∨ above.1 = below.1 ∧ Earlier above.2 below.2

theorem perm_insertRanked (rank : ρ) (item : α) (sorted : List (ρ × α)) :
    (insertRanked rank item sorted).Perm ((rank, item) :: sorted) := by
  induction sorted with
  | nil => exact .refl _
  | cons first rest ih =>
      rw [insertRanked]
      split
      · exact (ih.cons first).trans (.swap (rank, item) first rest)
      · exact .refl _

/-- **Sorting loses nothing.** -/
theorem perm_sortRanked (items : List (ρ × α)) : (sortRanked items).Perm items := by
  -- Everything inserted so far stands in front of what is still to come.
  have inserted : ∀ sorted : List (ρ × α),
      (items.foldl (fun sorted entry => insertRanked entry.1 entry.2 sorted) sorted).Perm
        (sorted ++ items) := by
    induction items with
    | nil => exact fun sorted => by simp
    | cons first rest ih =>
        intro sorted
        have next : (insertRanked first.1 first.2 sorted ++ rest).Perm (first :: sorted ++ rest) :=
          (perm_insertRanked _ _ sorted).append_right rest
        exact (ih _).trans (next.trans List.perm_middle.symm)
  exact inserted []

variable (Earlier : α → α → Prop)

/-- What is inserted goes behind everything of its rank. -/
theorem pairwise_insertRanked {rank : ρ} {item : α} {sorted : List (ρ × α)}
    (ordered : sorted.Pairwise (Above Earlier))
    (last : ∀ entry ∈ sorted, Earlier entry.2 item) :
    (insertRanked rank item sorted).Pairwise (Above Earlier) := by
  induction sorted with
  | nil => exact List.pairwise_singleton _ _
  | cons first rest ih =>
      obtain ⟨head, tail⟩ := List.pairwise_cons.mp ordered
      rw [List.forall_mem_cons] at last
      rw [insertRanked]
      split
      · rename_i notAbove
        refine List.pairwise_cons.mpr ⟨fun entry member => ?_, ih tail last.2⟩
        rcases List.mem_cons.mp ((perm_insertRanked rank item rest).mem_iff.mp member) with
          rfl | member
        · exact notAbove.lt_or_eq.imp id fun same => ⟨same.symm, last.1⟩
        · exact head entry member
      · rename_i notBelow
        have less := not_le.mp notBelow
        refine List.pairwise_cons.mpr ⟨?_, ordered⟩
        rw [List.forall_mem_cons]
        refine ⟨.inl less, fun entry member => .inl ?_⟩
        rcases head entry member with lower | ⟨same, -⟩
        · exact lower.trans less
        · exact same ▸ less

/-- **Sorting is stable.** -/
theorem pairwise_sortRanked {items : List (ρ × α)}
    (ordered : items.Pairwise fun before after => Earlier before.2 after.2) :
    (sortRanked items).Pairwise (Above Earlier) := by
  have inserted : ∀ sorted : List (ρ × α), sorted.Pairwise (Above Earlier) →
      (∀ entry ∈ sorted, ∀ item ∈ items, Earlier entry.2 item.2) →
      (items.foldl (fun sorted entry => insertRanked entry.1 entry.2 sorted) sorted).Pairwise
        (Above Earlier) := by
    induction items with
    | nil => exact fun _ done _ => done
    | cons first rest ih =>
        intro sorted done earlier
        obtain ⟨head, tail⟩ := List.pairwise_cons.mp ordered
        refine ih tail _ (pairwise_insertRanked Earlier done fun entry member =>
          earlier entry member first List.mem_cons_self) fun entry member item later => ?_
        rcases List.mem_cons.mp ((perm_insertRanked _ _ sorted).mem_iff.mp member) with
          rfl | member
        · exact head item later
        · exact earlier entry member item (List.mem_cons_of_mem _ later)
  exact inserted [] .nil (by simp)

/-- Sorting looks at ranks only. -/
theorem map_sortRanked {β : Type w} (f : α → β) (items : List (ρ × α)) :
    sortRanked (items.map (Prod.map id f)) = (sortRanked items).map (Prod.map id f) := by
  have insert_map : ∀ (rank : ρ) (item : α) (sorted : List (ρ × α)),
      insertRanked rank (f item) (sorted.map (Prod.map id f)) =
        (insertRanked rank item sorted).map (Prod.map id f) := by
    intro rank item sorted
    induction sorted with
    | nil => rfl
    | cons first rest ih =>
        simp only [List.map_cons, insertRanked, Prod.map, id_eq]
        split
        · exact congrArg _ ih
        · rfl
  have sort_map : ∀ sorted : List (ρ × α),
      (items.map (Prod.map id f)).foldl (fun sorted entry => insertRanked entry.1 entry.2 sorted)
          (sorted.map (Prod.map id f)) =
        (items.foldl (fun sorted entry => insertRanked entry.1 entry.2 sorted) sorted).map
          (Prod.map id f) := by
    induction items with
    | nil => exact fun _ => rfl
    | cons first rest ih =>
        intro sorted
        rw [List.map_cons, List.foldl_cons, List.foldl_cons, ← ih, ← insert_map]
        rfl
  exact sort_map []

end Order

/-! ## Ranks -/

section Ranking

variable {ρ : Type v} {κ : Type u}

/-- The rule of a rank: it stands at the place that the rank names, and its selector matches with
the power that the rank names. -/
def HasRank (power? : κ → Option ρ) (rules : List (κ × ThemeRule)) (rank : ρ ×ₗ Nat)
    (rule : ThemeRule) : Prop :=
  ∃ key, rules[(ofLex rank).2]? = some (key, rule) ∧ power? key = some (ofLex rank).1

variable (power? : κ → Option ρ) (rules : List (κ × ThemeRule))

/-- The rules that match with their powers and places, the last one first. -/
def placedRules : List (ρ × Nat × ThemeRule) :=
  rules.zipIdx.reverse.filterMap fun ((key, rule), place) =>
    (power? key).map fun power => (power, place, rule)

theorem mem_placedRules {power : ρ} {place : Nat} {rule : ThemeRule} :
    (power, place, rule) ∈ placedRules power? rules ↔
      HasRank power? rules (toLex (power, place)) rule := by
  simp only [placedRules, List.mem_filterMap, List.mem_reverse, HasRank, ofLex_toLex]
  constructor
  · rintro ⟨⟨⟨key, other⟩, index⟩, member, found⟩
    obtain ⟨found, matched, same⟩ := Option.map_eq_some_iff.mp found
    obtain ⟨rfl, rfl, rfl⟩ : found = power ∧ index = place ∧ other = rule := by simpa using same
    exact ⟨key, List.mem_zipIdx_iff_getElem?.mp member, matched⟩
  · rintro ⟨key, present, matched⟩
    exact ⟨((key, rule), place), List.mem_zipIdx_iff_getElem?.mpr present, by rw [matched]; rfl⟩

/-- The places fall. -/
theorem pairwise_placedRules :
    (placedRules power? rules).Pairwise fun before after => after.2.1 < before.2.1 := by
  have places : rules.zipIdx.Pairwise fun before after => before.2 < after.2 := by
    rw [← List.pairwise_map (f := Prod.snd), List.zipIdx_map_snd]
    exact List.pairwise_lt_range'
  refine (List.pairwise_reverse.mpr places).filterMap _ ?_
  rintro ⟨⟨key, rule⟩, place⟩ ⟨⟨otherKey, other⟩, otherPlace⟩ less before first after second
  obtain ⟨power, -, rfl⟩ := Option.map_eq_some_iff.mp first
  obtain ⟨otherPower, -, rfl⟩ := Option.map_eq_some_iff.mp second
  exact less

variable [LinearOrder ρ]

/-- All rules that match, each of them once, by falling rank. -/
def IsRanking (found : List ThemeRule) : Prop :=
  ∃ ranked : List ((ρ ×ₗ Nat) × ThemeRule),
    found = ranked.map (·.2) ∧
    (∀ rank rule, (rank, rule) ∈ ranked ↔ HasRank power? rules rank rule) ∧
    ranked.Pairwise fun above below => below.1 < above.1

/-- What the rule of highest rank among those that set something sets it to; nothing if no rule
that matches sets it. -/
def DecidedBy {β : Type w} (sets : ThemeRule → Option β) : Option β → Prop
  | none => ∀ rank rule, HasRank power? rules rank rule → sets rule = none
  | some value => ∃ rank rule, HasRank power? rules rank rule ∧ sets rule = some value ∧
      ∀ otherRank other, HasRank power? rules otherRank other → sets other ≠ none →
        otherRank ≤ rank

/-- Ranking is sorting with the places kept beside. -/
theorem rankRules_eq :
    rankRules power? rules = (sortRanked (placedRules power? rules)).map fun entry => entry.2.2 := by
  have unplaced : (rules.reverse.filterMap fun entry =>
      (power? entry.1).map fun power => (power, entry.2)) =
        (placedRules power? rules).map (Prod.map id Prod.snd) := by
    conv_lhs => rw [← List.zipIdx_map_fst 0 rules, ← List.map_reverse, List.filterMap_map]
    rw [placedRules, List.map_filterMap]
    congr 1
    funext entry
    simp [Option.map_map, Function.comp_def]
  calc rankRules power? rules
      = (sortRanked (rules.reverse.filterMap fun entry =>
          (power? entry.1).map fun power => (power, entry.2))).map (·.2) := rfl
    _ = ((sortRanked (placedRules power? rules)).map (Prod.map id Prod.snd)).map (·.2) := by
        rw [unplaced, map_sortRanked]
    _ = (sortRanked (placedRules power? rules)).map fun entry => entry.2.2 := by
        rw [List.map_map]
        rfl

/-- **Ranking finds the rules that match, each of them once, by falling rank.** -/
theorem isRanking_rankRules : IsRanking power? rules (rankRules power? rules) := by
  refine ⟨(sortRanked (placedRules power? rules)).map fun entry =>
    (toLex (entry.1, entry.2.1), entry.2.2), ?_, fun rank rule => ?_, ?_⟩
  · rw [rankRules_eq, List.map_map]
    rfl
  · rw [List.mem_map]
    constructor
    · rintro ⟨⟨power, place, other⟩, member, same⟩
      obtain ⟨rfl, rfl⟩ := Prod.mk.inj same
      exact (mem_placedRules power? rules).mp ((perm_sortRanked _).mem_iff.mp member)
    · intro ranked
      exact ⟨((ofLex rank).1, (ofLex rank).2, rule),
        (perm_sortRanked _).mem_iff.mpr ((mem_placedRules power? rules).mpr ranked), rfl⟩
  · rw [List.pairwise_map]
    refine (pairwise_sortRanked (fun before after => after.1 < before.1)
      (pairwise_placedRules power? rules)).imp fun above => ?_
    rw [Prod.Lex.toLex_lt_toLex]
    exact above.imp id fun ⟨same, less⟩ => ⟨same.symm, less⟩

variable {power? rules} {found : List ThemeRule}

theorem IsRanking.mem_iff (ranking : IsRanking power? rules found) (rule : ThemeRule) :
    rule ∈ found ↔ ∃ rank, HasRank power? rules rank rule := by
  obtain ⟨ranked, rfl, members, -⟩ := ranking
  simp [List.mem_map, members]

/-- **The first rule that sets something is the highest one that does.** -/
theorem IsRanking.decidedBy_findSome? {β : Type w} (ranking : IsRanking power? rules found)
    (sets : ThemeRule → Option β) : DecidedBy power? rules sets (found.findSome? sets) := by
  cases first : found.findSome? sets with
  | none =>
      intro rank rule ranked
      exact List.findSome?_eq_none_iff.mp first rule ((ranking.mem_iff rule).mpr ⟨rank, ranked⟩)
  | some value =>
      obtain ⟨ranked, rfl, members, falling⟩ := ranking
      rw [List.findSome?_map, List.findSome?_eq_some_iff] at first
      obtain ⟨above, ⟨rank, rule⟩, below, rfl, set, unset⟩ := first
      have present : HasRank power? rules rank rule := (members rank rule).mp (by simp)
      refine ⟨rank, rule, present, set, fun otherRank other otherPresent otherSets => ?_⟩
      -- What stands above the rule sets nothing, and what stands below it has a lower rank.
      rcases List.mem_append.mp ((members otherRank other).mpr otherPresent) with inAbove | rest
      · exact absurd (unset _ inAbove) otherSets
      · rcases List.mem_cons.mp rest with same | inBelow
        · exact (congrArg Prod.fst same).le
        · have tail := (List.pairwise_append.mp falling).2.1
          exact ((List.pairwise_cons.mp tail).1 _ inBelow).le

end Ranking

/-! ## The style of a stack -/

namespace ResolvedStyle

/-- **A colour is set once.**  What a rule sets stands if no rule before it has set it. -/
theorem color_ofRules {get : ResolvedStyle → Option String} {sets : ThemeRule → Option String}
    (unset : get {} = none)
    (joins : ∀ style rule, get (addRule style rule) = (get style).or (sets rule))
    (rules : List ThemeRule) : get (ofRules rules) = rules.findSome? sets := by
  have added : ∀ style, get (rules.foldl addRule style) = (get style).or (rules.findSome? sets) := by
    induction rules with
    | nil => exact fun style => by simp
    | cons rule rules ih =>
        intro style
        rw [List.foldl_cons, ih, joins, List.findSome?_cons, Option.or_assoc]
        cases sets rule <;> rfl
  rw [ofRules, added, unset, Option.none_or]

/-- **Fonts are joined.**  A flag is set if any rule sets it. -/
theorem flag_ofRules {flag : FontStyle → Bool} (unset : flag {} = false)
    (joins : ∀ font other, flag (font.union other) = (flag font || flag other))
    (rules : List ThemeRule) :
    flag (ofRules rules).fontStyle = true ↔
      ∃ rule ∈ rules, ∃ font, rule.fontStyle = some font ∧ flag font = true := by
  have sets : ∀ rule : ThemeRule, flag (rule.fontStyle.getD {}) = true ↔
      ∃ font, rule.fontStyle = some font ∧ flag font = true := by
    intro rule
    cases rule.fontStyle <;> simp [unset]
  have added : ∀ style : ResolvedStyle, flag (rules.foldl addRule style).fontStyle = true ↔
      flag style.fontStyle = true ∨
        ∃ rule ∈ rules, ∃ font, rule.fontStyle = some font ∧ flag font = true := by
    induction rules with
    | nil => exact fun style => by simp
    | cons rule rules ih =>
        intro style
        rw [List.foldl_cons, ih, addRule, joins, Bool.or_eq_true, sets, List.exists_mem_cons_iff,
          or_assoc]
  rw [ofRules, added, unset]
  simp

end ResolvedStyle

namespace Theme

/-- **The style of a stack is decided by rank.**  Whatever powers the selectors have, a theme answers
with the rules that match, by falling rank; each colour is that of the highest rule that sets it,
and the font has the flags of all rules that match.  The powers a theme goes by are those of its
selectors. -/
theorem style_decided_by_rank {ρ : Type v} [LinearOrder ρ]
    (power? : Selectors → List Scope → Option ρ) (theme : Theme) (outer : Scope)
    (inner : List Scope) :
    let scopes := outer :: inner
    let rules := theme.matchingRulesBy power?
    let style := ResolvedStyle.ofScopes scopes rules
    IsRanking (power? · scopes) theme.rules (rules scopes) ∧
    DecidedBy (power? · scopes) theme.rules (·.foreground) style.foreground ∧
    DecidedBy (power? · scopes) theme.rules (·.background) style.background ∧
    (∀ flag ∈ [FontStyle.bold, FontStyle.italic, FontStyle.underline],
      flag style.fontStyle = true ↔ ∃ rank rule font,
        HasRank (power? · scopes) theme.rules rank rule ∧ rule.fontStyle = some font ∧
          flag font = true) ∧
    theme.matchingRules = theme.matchingRulesBy Selectors.match? := by
  intro scopes rules style
  have ranking : IsRanking (power? · scopes) theme.rules (rules scopes) := isRanking_rankRules _ _
  have foreground : style.foreground = (rules scopes).findSome? (·.foreground) :=
    ResolvedStyle.color_ofRules rfl (fun _ _ => rfl) _
  have background : style.background = (rules scopes).findSome? (·.background) :=
    ResolvedStyle.color_ofRules rfl (fun _ _ => rfl) _
  refine ⟨ranking, ?_, ?_, fun flag isFlag => ?_, rfl⟩
  · rw [foreground]
    exact ranking.decidedBy_findSome? _
  · rw [background]
    exact ranking.decidedBy_findSome? _
  · have joined : flag style.fontStyle = true ↔
        ∃ rule ∈ rules scopes, ∃ font, rule.fontStyle = some font ∧ flag font = true := by
      simp only [List.mem_cons, List.not_mem_nil, or_false] at isFlag
      rcases isFlag with rfl | rfl | rfl <;>
        exact ResolvedStyle.flag_ofRules rfl (fun _ _ => rfl) _
    rw [joined]
    simp only [ranking.mem_iff]
    constructor
    · rintro ⟨rule, ⟨rank, ranked⟩, font, sets, has⟩
      exact ⟨rank, rule, font, ranked, sets, has⟩
    · rintro ⟨rank, rule, font, ranked, sets, has⟩
      exact ⟨rule, ⟨rank, ranked⟩, font, sets, has⟩

/-- Of two rules with equal power the later one decides; what it leaves open, a weaker rule may
set. -/
example :
    let string : Selectors := ⟨[⟨[⟨["string"]⟩], []⟩]⟩
    let quoted : Selectors := ⟨[⟨[⟨["string", "quoted"]⟩], []⟩]⟩
    let theme : Theme :=
      { rules := [
          (quoted, { foreground := some "#111111", fontStyle := some { bold := true } }),
          (quoted, { foreground := some "#222222" }),
          (string, { foreground := some "#333333", background := some "#444444" })] }
    ResolvedStyle.ofScopes [⟨["string", "quoted", "double"]⟩] theme.matchingRules =
      ⟨some "#222222", some "#444444", { bold := true }⟩ := by
  decide +kernel

end Theme

end MarkdownPager
