import Mathlib.Data.List.Basic
import MarkdownPager.Text.Lines

/-!
# Lines and what joins them

Cutting a text into lines is `List.splitOn` at the line feed.  So a text has one line more than it
has line feeds, and its lines with line feeds between them are the text (`intercalate_lines`).
Lines that go over no line feed are found again when they are joined (`lines_join`).
-/

namespace MarkdownPager.Text

/-- Cutting where characters satisfy a test is the library's `List.splitOnP`. -/
theorem splitWhere_eq_splitOnP (cut : Char → Bool) (cs : List Char) :
    splitWhere cut cs = cs.splitOnP cut := by
  induction cs with
  | nil => rw [splitWhere, List.splitOnP_nil]
  | cons c cs ih =>
      rw [splitWhere, List.splitOnP_cons_eq_if_modifyHead, ih]
      cases split : cs.splitOnP cut with
      | nil => exact absurd split (List.splitOnP_ne_nil cut cs)
      | cons part parts => rfl

theorem lines_eq_splitOn (s : String) : lines s = (s.toList.splitOn '\n').map .ofList := by
  rw [lines, linesOf, splitWhere_eq_splitOnP, List.splitOn_eq_splitOnP]

/-- **The lines of a text with line feeds between them are the text.** -/
theorem intercalate_lines (s : String) : "\n".intercalate (lines s) = s := by
  rw [← String.toList_inj, String.toList_intercalate, lines_eq_splitOn, List.map_map]
  have lists : String.toList ∘ String.ofList = id := funext fun cs => String.toList_ofList
  rw [lists, List.map_id]
  exact List.intercalate_splitOn '\n'

/-- A text has one line more than line feeds. -/
theorem length_lines (s : String) : (lines s).length = s.toList.count '\n' + 1 := by
  rw [lines, List.length_map, linesOf]
  induction s.toList with
  | nil => rfl
  | cons c cs ih =>
      rw [splitWhere, List.count_cons]
      split
      · rw [List.length_cons, ih]
      · cases split : splitWhere (· == '\n') cs with
        | nil => exact absurd split (splitWhere_ne_nil _ cs)
        | cons part parts =>
            rw [split] at ih
            exact ih

/-! ## Joining lines -/

/-- Texts that can be the lines of a text: there is at least one, and none has a line feed. -/
structure AreLines (texts : List String) : Prop where
  ne_nil : texts ≠ []
  unbroken : ∀ text ∈ texts, '\n' ∉ text.toList

/-- No part has a character at which the text was cut. -/
theorem cut_eq_false_of_mem_splitWhere {cut : Char → Bool} {cs : List Char} :
    ∀ {part : List Char}, part ∈ splitWhere cut cs → ∀ c ∈ part, cut c = false := by
  induction cs with
  | nil => simp [splitWhere]
  | cons first cs ih =>
      intro part member c inside
      rw [splitWhere] at member
      split at member
      · rcases List.mem_cons.mp member with rfl | later
        · simp at inside
        · exact ih later c inside
      · rename_i kept
        split at member
        · rename_i none
          exact absurd none (splitWhere_ne_nil cut cs)
        · rename_i head parts split
          rw [split] at ih
          rcases List.mem_cons.mp member with rfl | later
          · rcases List.mem_cons.mp inside with rfl | inside
            · exact Bool.eq_false_iff.mpr kept
            · exact ih List.mem_cons_self c inside
          · exact ih (List.mem_cons_of_mem _ later) c inside

/-- The lines of a text are lines. -/
theorem areLines_lines (s : String) : AreLines (lines s) where
  ne_nil nil := splitWhere_ne_nil _ _ (List.map_eq_nil_iff.mp nil)
  unbroken text member inside := by
    obtain ⟨line, among, rfl⟩ := List.mem_map.mp member
    rw [String.toList_ofList] at inside
    exact absurd (cut_eq_false_of_mem_splitWhere among _ inside) (by decide)

theorem join_eq_intercalate (separator : String) :
    ∀ texts : List String, join separator texts = separator.intercalate texts
  | [] => rfl
  | [text] => by rw [join, String.intercalate_singleton]
  | text :: next :: rest => by
      rw [join, String.intercalate_cons_cons, join_eq_intercalate separator (next :: rest)]

/-- **Lines that are joined are found again.** -/
theorem lines_join {texts : List String} (areLines : AreLines texts) :
    lines (join "\n" texts) = texts := by
  have unbroken : ∀ line ∈ texts.map String.toList, '\n' ∉ line :=
    List.forall_mem_map.mpr areLines.unbroken
  have nonempty : texts.map String.toList ≠ [] := mt List.map_eq_nil_iff.mp areLines.ne_nil
  rw [join_eq_intercalate, lines_eq_splitOn, String.toList_intercalate]
  show ((['\n'].intercalate (texts.map String.toList)).splitOn '\n').map String.ofList = texts
  rw [List.splitOn_intercalate '\n' unbroken nonempty, List.map_map]
  exact List.map_id'' (fun text => String.ofList_toList) texts

/-- A text is what is left of it without a final line feed, with that line feed if it had one. -/
theorem dropFinalNewline_cases (s : String) :
    (s.toList.getLast? ≠ some '\n' ∧ dropFinalNewline s = s) ∨ dropFinalNewline s ++ "\n" = s := by
  rw [dropFinalNewline.eq_def]
  split
  · rename_i rest reversed
    right
    have whole : rest.reverse ++ ['\n'] = s.toList := by
      rw [← List.reverse_cons, ← reversed, List.reverse_reverse]
    rw [← String.toList_inj, String.toList_append, String.toList_ofList]
    exact whole
  · rename_i other
    left
    refine ⟨fun last => ?_, rfl⟩
    obtain ⟨front, whole⟩ := List.getLast?_eq_some_iff.mp last
    exact other front.reverse (by rw [whole, List.reverse_append]; rfl)

end MarkdownPager.Text
