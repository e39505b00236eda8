import Mathlib.Data.List.Basic
import MarkdownPager.Document.Fingerprint

/-!
# Reading encodings back

In a fingerprint the encodings stand one after the other, and nothing between them says where one
ends and the next begins.  So it is not enough that different things have different encodings: an
encoding has to be read off the front of a text, whatever follows.  A number ends where its digits
end, and a frame ends where its length says.  The one doubtful place is a number written directly in
front of the length of the first frame: `[1` and `11:` give the same text as `[11` and `1:`.

* **Counted lists** (`counted_selfDelimiting`).  The doubt does no harm if the elements themselves
  can be read off a text.  The first one is read without knowing its length, which settles the
  length, and with it the digits that are left for the number of elements.
* **Inlines** (`inline_selfDelimiting`).  The letter in front tells the kind, and behind the letter
  stand frames and lists of inlines.  The induction is on the inline, whose lists are counted lists
  of smaller inlines.  Hence a text has at most one reading as a list of inlines and a rest, and no
  list is encoded by a beginning of the encoding of another.

The number of lines of a code block cannot be read in this way.  `SelfDelimiting` therefore speaks
of a reader who is told some numbers in advance; for inlines there is nothing to tell.
-/

namespace MarkdownPager

namespace Fingerprint

/-! ## Numbers -/

theorem isDigit_of_mem_number {n : Nat} {c : Char} (member : c ∈ number n) : c.isDigit = true :=
  Nat.isDigit_of_mem_toDigits (by decide) (by decide) member

theorem number_injective {m n : Nat} (same : number m = number n) : m = n := by
  rw [number, number] at same
  rw [← Nat.ofDigitChars_ten_toDigits (n := m), same, Nat.ofDigitChars_ten_toDigits]

/-- No number but zero begins with a zero. -/
theorem head?_number_ne_zero {n : Nat} (positive : 0 < n) : (number n).head? ≠ some '0' := by
  induction n using Nat.strongRecOn with
  | ind n ih =>
      by_cases small : n < 10
      · have digit : ∀ m < 10, 0 < m → [m.digitChar].head? ≠ some '0' := by decide
        rw [number, Nat.toDigits_of_lt_base small]
        exact digit n small positive
      · rw [number, Nat.toDigits_of_base_le (by decide) (by omega), List.head?_append]
        have shorter := ih (n / 10) (by omega) (by omega)
        rw [number] at shorter
        cases head : (Nat.toDigits 10 (n / 10)).head? with
        | none => simp [List.head?_eq_none_iff, Nat.toDigits_ne_nil] at head
        | some c =>
            rw [head] at shorter
            simpa using shorter

/-- Digits are read up to the first character that is none. -/
theorem digits_append_inj {ds es r s : List Char} {a b : Char}
    (digits : ∀ c ∈ ds, c.isDigit = true) (digits' : ∀ c ∈ es, c.isDigit = true)
    (endA : a.isDigit = false) (endB : b.isDigit = false) (same : ds ++ a :: r = es ++ b :: s) :
    ds = es ∧ a = b ∧ r = s := by
  induction ds generalizing es with
  | nil =>
      cases es with
      | nil => simpa using same
      | cons e es =>
          simp only [List.nil_append, List.cons_append, List.cons.injEq] at same
          have digit := digits' e List.mem_cons_self
          rw [← same.1, endA] at digit
          cases digit
  | cons d ds ih =>
      cases es with
      | nil =>
          simp only [List.nil_append, List.cons_append, List.cons.injEq] at same
          have digit := digits d List.mem_cons_self
          rw [same.1, endB] at digit
          cases digit
      | cons e es =>
          simp only [List.cons_append, List.cons.injEq] at same
          rw [List.forall_mem_cons] at digits digits'
          obtain ⟨rest, ends⟩ := ih digits.2 digits'.2 same.2
          exact ⟨by rw [same.1, rest], ends⟩

/-- A number is read up to the first character that is no digit. -/
theorem number_append_inj {m n : Nat} {a b : Char} {r s : List Char} (endA : a.isDigit = false)
    (endB : b.isDigit = false) (same : number m ++ a :: r = number n ++ b :: s) :
    m = n ∧ a = b ∧ r = s := by
  obtain ⟨digits, ends⟩ := digits_append_inj (fun _ => isDigit_of_mem_number)
    (fun _ => isDigit_of_mem_number) endA endB same
  exact ⟨number_injective digits, ends⟩

/-! ## Frames -/

/-- Of two beginnings of one text, the one with as many bytes is the same. -/
theorem append_inj_of_byteLength {x y r s : List Char}
    (length : Text.byteLength x = Text.byteLength y) (same : x ++ r = y ++ s) :
    x = y ∧ r = s := by
  induction x generalizing y with
  | nil =>
      cases y with
      | nil => exact ⟨rfl, same⟩
      | cons d y =>
          have := d.utf8Size_pos
          simp only [Text.byteLength] at length
          omega
  | cons c x ih =>
      cases y with
      | nil =>
          have := c.utf8Size_pos
          simp only [Text.byteLength] at length
          omega
      | cons d y =>
          simp only [List.cons_append, List.cons.injEq] at same
          simp only [Text.byteLength, same.1, Nat.add_left_cancel_iff] at length
          obtain ⟨rest, tails⟩ := ih length same.2
          exact ⟨by rw [same.1, rest], tails⟩

/-- A frame ends where its length says. -/
theorem framed_append_inj {x y r s : List Char} (same : framed x ++ r = framed y ++ s) :
    x = y ∧ r = s := by
  simp only [framed, List.append_assoc, List.cons_append] at same
  obtain ⟨length, -, rest⟩ := number_append_inj (by decide) (by decide) same
  exact append_inj_of_byteLength length rest

theorem field_append_inj {t t' : String} {r s : List Char} (same : field t ++ r = field t' ++ s) :
    t = t' ∧ r = s := by
  obtain ⟨chars, rest⟩ := framed_append_inj same
  exact ⟨String.toList_inj.mp chars, rest⟩

/-! ## Self-delimiting encodings -/

universe u v

variable {α : Type u} {β : Type v} {encode : α → List Char} {lineCounts : α → List Nat}
  {content : α → β}

/-- **The encoding of `x` can be read off the front of any text**, by a reader who is told the
numbers of code lines in advance: if `y` is encoded by a beginning of the same text, and the same
numbers are told, then `x` and `y` have the same content, and what is left of the text and of the
numbers is the same too. -/
def SelfDelimiting (encode : α → List Char) (lineCounts : α → List Nat) (content : α → β)
    (x : α) : Prop :=
  ∀ (y : α) (r s : List Char) (u v : List Nat), encode x ++ r = encode y ++ s →
    lineCounts x ++ u = lineCounts y ++ v → content x = content y ∧ r = s ∧ u = v

/-- The encodings of a list, each in a frame. -/
def framedAll (encode : α → List Char) (xs : List α) : List Char :=
  xs.flatMap fun x => framed (encode x)

/-- The number of things in a list, directly followed by their framed encodings. -/
def counted (encode : α → List Char) (xs : List α) : List Char :=
  number xs.length ++ framedAll encode xs

/-- Lists of equal length are read frame by frame. -/
theorem framedAll_append_inj {xs : List α}
    (each : ∀ x ∈ xs, SelfDelimiting encode lineCounts content x) :
    ∀ {ys : List α} {r s : List Char} {u v : List Nat}, xs.length = ys.length →
      framedAll encode xs ++ r = framedAll encode ys ++ s →
      xs.flatMap lineCounts ++ u = ys.flatMap lineCounts ++ v →
      xs.map content = ys.map content ∧ r = s ∧ u = v := by
  induction xs with
  | nil =>
      intro ys r s u v length same told
      obtain rfl := List.length_eq_zero_iff.mp length.symm
      exact ⟨rfl, same, told⟩
  | cons x xs ih =>
      intro ys r s u v length same told
      cases ys with
      | nil => simp at length
      | cons y ys =>
          simp only [framedAll, List.flatMap_cons, List.append_assoc] at same told
          obtain ⟨first, rest⟩ := framed_append_inj same
          obtain ⟨contents, -, toldRest⟩ := each x List.mem_cons_self y [] [] _ _
            (by rw [first]) told
          obtain ⟨others, ends⟩ := ih (fun z member => each z (List.mem_cons_of_mem x member))
            (by simpa using length) rest toldRest
          exact ⟨by rw [List.map_cons, List.map_cons, contents, others], ends⟩

/-- A list that is not empty does not begin like an empty one. -/
theorem counted_nil_append_ne {y : α} {ys : List α} {r s : List Char} :
    counted encode [] ++ r ≠ counted encode (y :: ys) ++ s := by
  intro same
  have heads := congrArg List.head? same
  have nonempty : number (y :: ys).length ≠ [] := Nat.toDigits_ne_nil
  have positive : (number (y :: ys).length).head? ≠ some '0' := head?_number_ne_zero (by simp)
  have zero : number ([] : List α).length = ['0'] := Nat.toDigits_zero 10
  rw [counted, counted, List.append_assoc, List.append_assoc,
    List.head?_append_of_ne_nil _ nonempty, zero] at heads
  exact positive heads.symm

/-- **A counted list is read although nothing stands between the count and the first length.**  The
first element is read off the text, which settles its length, and with it the digits that are left
for the count. -/
theorem counted_selfDelimiting {xs : List α}
    (each : ∀ x ∈ xs, SelfDelimiting encode lineCounts content x) :
    SelfDelimiting (counted encode) (List.flatMap lineCounts) (List.map content) xs := by
  intro ys r s u v same told
  cases xs with
  | nil =>
      cases ys with
      | nil => exact ⟨rfl, List.append_cancel_left same, told⟩
      | cons y ys => exact absurd same counted_nil_append_ne
  | cons x xs =>
      cases ys with
      | nil => exact absurd same.symm counted_nil_append_ne
      | cons y ys =>
          -- The count and the length of the first frame are one run of digits, and nothing in the
          -- digits says where the one ends and the other begins.
          have split : ∀ (z : α) (zs : List α) (t : List Char), counted encode (z :: zs) ++ t =
              (number (z :: zs).length ++ number (Text.byteLength (encode z))) ++
                ':' :: (encode z ++ (framedAll encode zs ++ t)) := by
            intro z zs t
            simp [counted, framedAll, framed]
          have digits : ∀ (z : α) (n : Nat),
              ∀ c ∈ number n ++ number (Text.byteLength (encode z)), c.isDigit = true := by
            intro z n c member
            rcases List.mem_append.mp member with member | member <;>
              exact isDigit_of_mem_number member
          rw [split x xs r, split y ys s] at same
          obtain ⟨numbers, -, rest⟩ := digits_append_inj (digits x _) (digits y _) (by decide)
            (by decide) same
          -- What follows the digits can be read without knowing that.
          have first := each x List.mem_cons_self y _ _ _ _ rest (by simpa using told)
          have codes : encode x = encode y := by
            rw [first.2.1] at rest
            exact List.append_cancel_right rest
          rw [codes] at numbers
          have lengths : (x :: xs).length = (y :: ys).length :=
            number_injective (List.append_cancel_right numbers)
          refine framedAll_append_inj each lengths ?_ told
          simp only [framedAll, List.flatMap_cons, List.append_assoc, codes]
          exact congrArg _ first.2.1

/-! ## Inlines -/

theorem framedInlines_eq_framedAll (inlines : List Inline) :
    framedInlines inlines = framedAll ofInline inlines := by
  induction inlines with
  | nil => rw [framedInlines, framedAll, List.flatMap_nil]
  | cons inline rest ih => rw [framedInlines, ih, framedAll, framedAll, List.flatMap_cons]

theorem ofInlines_eq_counted (inlines : List Inline) :
    ofInlines inlines = '[' :: counted ofInline inlines ++ [']'] := by
  rw [ofInlines, framedInlines_eq_framedAll, counted, List.cons_append]

/-- The encoding of an inline can be read off the front of any text. -/
def InlineSelfDelimiting (inline : Inline) : Prop :=
  ∀ (other : Inline) (r s : List Char), ofInline inline ++ r = ofInline other ++ s →
    inline = other ∧ r = s

/-- Lists of inlines are read if each of the inlines is. -/
theorem ofInlines_append_inj {inlines : List Inline}
    (each : ∀ inline ∈ inlines, InlineSelfDelimiting inline) {others : List Inline}
    {r s : List Char} (same : ofInlines inlines ++ r = ofInlines others ++ s) :
    inlines = others ∧ r = s := by
  have told : ∀ inline ∈ inlines, SelfDelimiting ofInline (fun _ => []) id inline := by
    intro inline member other r s u v same told
    obtain ⟨equal, rest⟩ := each inline member other r s same
    exact ⟨equal, rest, told⟩
  have nothing : ∀ zs : List Inline, zs.flatMap (fun _ => ([] : List Nat)) = [] := by simp
  rw [ofInlines_eq_counted, ofInlines_eq_counted] at same
  simp only [List.cons_append, List.append_assoc, List.cons.injEq, true_and] at same
  obtain ⟨contents, rest, -⟩ := counted_selfDelimiting told others _ _ [] [] same
    (by rw [nothing, nothing])
  exact ⟨by simpa using contents, by simpa using rest⟩

mutual

theorem inline_selfDelimiting : ∀ inline : Inline, InlineSelfDelimiting inline
  | .text t => by
      intro other r s same
      cases other with
      | text t' =>
          simp only [ofInline, List.cons_append, List.cons.injEq, true_and] at same
          obtain ⟨rfl, rest⟩ := field_append_inj same
          exact ⟨rfl, rest⟩
      | _ => simp [ofInline, eq_ite_iff] at same
  | .code t => by
      intro other r s same
      cases other with
      | code t' =>
          simp only [ofInline, List.cons_append, List.cons.injEq, true_and] at same
          obtain ⟨rfl, rest⟩ := field_append_inj same
          exact ⟨rfl, rest⟩
      | _ => simp [ofInline, eq_ite_iff] at same
  | .emphasis children => by
      intro other r s same
      cases other with
      | emphasis children' =>
          simp only [ofInline, List.cons_append, List.cons.injEq, true_and] at same
          obtain ⟨rfl, rest⟩ := ofInlines_append_inj (inlines_selfDelimiting children) same
          exact ⟨rfl, rest⟩
      | _ => simp [ofInline, eq_ite_iff] at same
  | .strong children => by
      intro other r s same
      cases other with
      | strong children' =>
          simp only [ofInline, List.cons_append, List.cons.injEq, true_and] at same
          obtain ⟨rfl, rest⟩ := ofInlines_append_inj (inlines_selfDelimiting children) same
          exact ⟨rfl, rest⟩
      | _ => simp [ofInline, eq_ite_iff] at same
  | .strikethrough children => by
      intro other r s same
      cases other with
      | strikethrough children' =>
          simp only [ofInline, List.cons_append, List.cons.injEq, true_and] at same
          obtain ⟨rfl, rest⟩ := ofInlines_append_inj (inlines_selfDelimiting children) same
          exact ⟨rfl, rest⟩
      | _ => simp [ofInline, eq_ite_iff] at same
  | .link url children => by
      intro other r s same
      cases other with
      | link url' children' =>
          simp only [ofInline, List.cons_append, List.append_assoc, List.cons.injEq,
            true_and] at same
          obtain ⟨rfl, behind⟩ := field_append_inj same
          obtain ⟨rfl, rest⟩ := ofInlines_append_inj (inlines_selfDelimiting children) behind
          exact ⟨rfl, rest⟩
      | _ => simp [ofInline, eq_ite_iff] at same
  | .image url alt => by
      intro other r s same
      cases other with
      | image url' alt' =>
          simp only [ofInline, List.cons_append, List.append_assoc, List.cons.injEq,
            true_and] at same
          obtain ⟨rfl, behind⟩ := field_append_inj same
          obtain ⟨rfl, rest⟩ := field_append_inj behind
          exact ⟨rfl, rest⟩
      | _ => simp [ofInline, eq_ite_iff] at same
  | .softBreak => by
      intro other r s same
      cases other with
      | softBreak => exact ⟨rfl, by simpa [ofInline] using same⟩
      | _ => simp [ofInline, eq_ite_iff] at same
  | .hardBreak => by
      intro other r s same
      cases other with
      | hardBreak => exact ⟨rfl, by simpa [ofInline] using same⟩
      | _ => simp [ofInline, eq_ite_iff] at same
  | .html t => by
      intro other r s same
      cases other with
      | html t' =>
          simp only [ofInline, List.cons_append, List.cons.injEq, true_and] at same
          obtain ⟨rfl, rest⟩ := field_append_inj same
          exact ⟨rfl, rest⟩
      | _ => simp [ofInline, eq_ite_iff] at same
  | .taskMarker done => by
      intro other r s same
      cases other with
      | taskMarker done' =>
          cases done <;> cases done' <;> simp [ofInline] at same <;> exact ⟨rfl, same⟩
      | _ => cases done <;> simp [ofInline] at same
  | .footnoteRef name => by
      intro other r s same
      cases other with
      | footnoteRef name' =>
          simp only [ofInline, List.cons_append, List.cons.injEq, true_and] at same
          obtain ⟨rfl, rest⟩ := field_append_inj same
          exact ⟨rfl, rest⟩
      | _ => simp [ofInline, eq_ite_iff] at same

theorem inlines_selfDelimiting : ∀ inlines : List Inline,
    ∀ inline ∈ inlines, InlineSelfDelimiting inline
  | [], _, member => nomatch member
  | inline :: rest, other, member => by
      rcases List.mem_cons.mp member with same | later
      · rw [same]
        exact inline_selfDelimiting inline
      · exact inlines_selfDelimiting rest other later

end

/-- **A text has at most one reading as a list of inlines and a rest.**  If the encodings of two
lists, each with any text behind it, are the same text, then the lists are the same and so is what
stands behind them.  In particular no list is encoded by a proper beginning of the encoding of
another. -/
theorem inlines_uniquely_decodable (inlines others : List Inline) :
    (∀ r s : List Char,
      ofInlines inlines ++ r = ofInlines others ++ s ↔ inlines = others ∧ r = s) ∧
    (ofInlines inlines <+: ofInlines others ↔ inlines = others) := by
  have decodable : ∀ r s : List Char,
      ofInlines inlines ++ r = ofInlines others ++ s ↔ inlines = others ∧ r = s := by
    intro r s
    constructor
    · exact ofInlines_append_inj (inlines_selfDelimiting inlines)
    · rintro ⟨rfl, rfl⟩
      rfl
  refine ⟨decodable, ?_⟩
  constructor
  · rintro ⟨rest, same⟩
    rw [← List.append_nil (ofInlines others)] at same
    exact ((decodable rest []).mp same).1
  · rintro rfl
    exact List.prefix_rfl

-- Eleven inlines of one byte begin like one inline of eleven bytes: the digits do not tell them
-- apart, what follows does.
example :
    (ofInlines (List.replicate 11 .softBreak)).take 7 = "[111:b1".toList ∧
      (ofInlines [.text "12345678"]).take 7 = "[111:t8".toList := by
  cbv

end Fingerprint

end MarkdownPager
