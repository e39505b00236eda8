import Mathlib.Data.List.DropRight
import MarkdownPager.Proofs.Boundary
import MarkdownPager.Text.CodePoints

/-!
# Hexadecimal digits

A hexadecimal digit is one of twenty-two ASCII characters, so it is one byte, and a text has no other
bytes than those of digits exactly when it has no other characters (`all_isHexByte_utf8`).  In such
a text bytes and characters count alike, and it can be cut at every byte (`hexAt?_eq`).

Small and capital letters are worth the same, and white space has neither, so reading a text without
the white space around it does not depend on the case (`hexDigit?_lowerAscii`, `trimChars_map`).
-/

namespace MarkdownPager.Text

/-! ## One digit -/

/-- A digit by its code, in one of three ranges, or no digit. -/
theorem hexDigit?_cases (c : Char) :
    (48 ≤ c.toNat ∧ c.toNat ≤ 57 ∧ hexDigit? c = some (c.toNat - 48)) ∨
    (97 ≤ c.toNat ∧ c.toNat ≤ 102 ∧ hexDigit? c = some (c.toNat - 97 + 10)) ∨
    (65 ≤ c.toNat ∧ c.toNat ≤ 70 ∧ hexDigit? c = some (c.toNat - 65 + 10)) ∨
    (¬(48 ≤ c.toNat ∧ c.toNat ≤ 57) ∧ ¬(97 ≤ c.toNat ∧ c.toNat ≤ 102) ∧
      ¬(65 ≤ c.toNat ∧ c.toNat ≤ 70) ∧ hexDigit? c = none) := by
  unfold hexDigit?
  split
  · rename_i decimal
    exact .inl ⟨decimal.1, decimal.2, rfl⟩
  · rename_i notDecimal
    split
    · rename_i small
      exact .inr (.inl ⟨small.1, small.2, rfl⟩)
    · rename_i notSmall
      split
      · rename_i capital
        exact .inr (.inr (.inl ⟨capital.1, capital.2, rfl⟩))
      · rename_i notCapital
        exact .inr (.inr (.inr ⟨notDecimal, notSmall, notCapital, rfl⟩))

/-- The value of a digit is below sixteen, and its code below that of any character of more than one
byte. -/
theorem lt_of_hexDigit?_eq_some {c : Char} {value : Nat} (digit : hexDigit? c = some value) :
    value < 16 ∧ c.toNat ≤ 127 := by
  rcases hexDigit?_cases c with ⟨_, _, found⟩ | ⟨_, _, found⟩ | ⟨_, _, found⟩ | ⟨-, -, -, found⟩
  · obtain rfl := Option.some.inj (found.symm.trans digit)
    omega
  · obtain rfl := Option.some.inj (found.symm.trans digit)
    omega
  · obtain rfl := Option.some.inj (found.symm.trans digit)
    omega
  · cases found.symm.trans digit

/-! ## Bytes of digits -/

/-- Whether a byte is the ASCII code of a hexadecimal digit, in either case. -/
def isHexByte (byte : UInt8) : Bool :=
  let n := byte.toNat
  (48 ≤ n && n ≤ 57) || (65 ≤ n && n ≤ 70) || (97 ≤ n && n ≤ 102)

/-- The bytes of a text. -/
def utf8 (s : String) : List UInt8 := s.toUTF8.data.toList

theorem utf8_ofList (cs : List Char) : utf8 (.ofList cs) = cs.flatMap String.utf8EncodeChar := by
  show (String.ofList cs).toByteArray.data.toList = _
  rw [String.toByteArray_ofList, List.utf8Encode, List.data_toByteArray]

/-- An ASCII character is one byte. -/
theorem utf8EncodeChar_of_le {c : Char} (ascii : c.toNat ≤ 127) :
    String.utf8EncodeChar c = [UInt8.ofNat c.toNat] := by
  rw [String.utf8EncodeChar]
  exact if_pos ascii

/-- The bytes of every other character are above those of ASCII. -/
theorem le_of_mem_utf8EncodeChar {c : Char} (wide : ¬c.toNat ≤ 127) {byte : UInt8}
    (member : byte ∈ String.utf8EncodeChar c) : 128 ≤ byte.toNat := by
  have wide : ¬c.val.toNat ≤ 127 := wide
  rw [String.utf8EncodeChar] at member
  simp only [if_neg wide] at member
  split at member
  · simp only [List.mem_cons, List.not_mem_nil, or_false] at member
    rcases member with rfl | rfl <;> (rw [UInt8.toNat_ofNat']; omega)
  · split at member
    · simp only [List.mem_cons, List.not_mem_nil, or_false] at member
      rcases member with rfl | rfl | rfl <;> (rw [UInt8.toNat_ofNat']; omega)
    · simp only [List.mem_cons, List.not_mem_nil, or_false] at member
      rcases member with rfl | rfl | rfl | rfl <;> (rw [UInt8.toNat_ofNat']; omega)

/-- A character is a digit when its bytes are. -/
theorem all_isHexByte_utf8EncodeChar (c : Char) :
    (String.utf8EncodeChar c).all isHexByte = (hexDigit? c).isSome := by
  by_cases ascii : c.toNat ≤ 127
  · have code : (UInt8.ofNat c.toNat).toNat = c.toNat := by
      rw [UInt8.toNat_ofNat']
      omega
    rw [utf8EncodeChar_of_le ascii, List.all_cons, List.all_nil, Bool.and_true, isHexByte, code]
    rcases hexDigit?_cases c with ⟨_, _, found⟩ | ⟨_, _, found⟩ | ⟨_, _, found⟩ | ⟨_, _, _, found⟩
    all_goals
      rw [found]
      simp
      omega
  · have notDigit : hexDigit? c = none := by
      cases digit : hexDigit? c with
      | none => rfl
      | some value => exact absurd (lt_of_hexDigit?_eq_some digit).2 ascii
    have first := List.head_mem (String.utf8EncodeChar_ne_nil (c := c))
    rw [notDigit, Option.isSome_none, List.all_eq_false]
    refine ⟨_, first, ?_⟩
    have high := le_of_mem_utf8EncodeChar ascii first
    simp [isHexByte]
    omega

/-- **Bytes of digits are digits.** -/
theorem all_isHexByte_utf8 (cs : List Char) :
    (utf8 (.ofList cs)).all isHexByte = cs.all fun c => (hexDigit? c).isSome := by
  rw [utf8_ofList, List.all_flatMap]
  exact congrArg cs.all (funext all_isHexByte_utf8EncodeChar)

/-! ## Texts of digits -/

/-- What has values is digits. -/
theorem isSome_of_map_eq {cs : List Char} {values : List Nat}
    (read : cs.map hexDigit? = values.map some) : ∀ c ∈ cs, (hexDigit? c).isSome := by
  intro c member
  obtain ⟨value, -, digit⟩ := List.mem_map.mp (read ▸ List.mem_map_of_mem (f := hexDigit?) member)
  rw [← digit]
  rfl

theorem length_of_map_eq {cs : List Char} {values : List Nat}
    (read : cs.map hexDigit? = values.map some) : cs.length = values.length := by
  have same := congrArg List.length read
  rwa [List.length_map, List.length_map] at same

/-- Digits are worth less than sixteen. -/
theorem lt_of_map_eq {cs : List Char} {values : List Nat}
    (read : cs.map hexDigit? = values.map some) : ∀ value ∈ values, value < 16 := by
  intro value member
  obtain ⟨c, -, digit⟩ : ∃ c ∈ cs, hexDigit? c = some value :=
    List.mem_map.mp (read ▸ List.mem_map_of_mem member)
  exact (lt_of_hexDigit?_eq_some digit).1

/-- Digits take as many bytes as they are. -/
theorem byteLength_of_digits {cs : List Char} (digits : ∀ c ∈ cs, (hexDigit? c).isSome) :
    byteLength cs = cs.length := by
  induction cs with
  | nil => rfl
  | cons c cs ih =>
      obtain ⟨digit, rest⟩ := List.forall_mem_cons.mp digits
      obtain ⟨value, found⟩ := Option.isSome_iff_exists.mp digit
      have one : c.utf8Size = 1 := Char.utf8Size_eq_one_iff.mpr (lt_of_hexDigit?_eq_some found).2
      rw [byteLength, one, ih rest, List.length_cons, Nat.add_comm]

theorem utf8ByteSize_of_digits {cs : List Char} (digits : ∀ c ∈ cs, (hexDigit? c).isSome) :
    (String.ofList cs).utf8ByteSize = cs.length := by
  rw [utf8ByteSize_eq_byteLength, String.toList_ofList, byteLength_of_digits digits]

/-- The number that the digits from one byte offset up to another spell; nothing if there is no text
between them. -/
def hexAt? (s : String) (start stop : Nat) : Option Nat :=
  (slice? s start stop).map fun part => hexValue part.toList

/-- A number is spelled by the values of its digits. -/
theorem hexValue_eq_foldl {cs : List Char} {values : List Nat}
    (read : cs.map hexDigit? = values.map some) :
    hexValue cs = values.foldl (fun n value => n * 16 + value) 0 := by
  have digits : hexValue cs =
      (cs.map hexDigit?).foldl (fun n value => n * 16 + value.getD 0) 0 := by
    rw [List.foldl_map]
    rfl
  rw [digits, read, List.foldl_map]
  rfl

/-- **Digits can be cut anywhere.**  Between two offsets stands the number of the values there. -/
theorem hexAt?_eq {cs : List Char} {values : List Nat} (read : cs.map hexDigit? = values.map some)
    (start stop : Nat) (ordered : start ≤ stop) (inside : stop ≤ values.length) :
    hexAt? (.ofList cs) start stop =
      some (((values.take stop).drop start).foldl (fun n value => n * 16 + value) 0) := by
  rw [← length_of_map_eq read] at inside
  have digits := isSome_of_map_eq read
  have part : ((cs.take stop).drop start).map hexDigit? =
      ((values.take stop).drop start).map some := by
    rw [List.map_drop, List.map_take, read, List.map_drop, List.map_take]
  have front : (cs.take stop).take start = cs.take start := by
    rw [List.take_take, Nat.min_eq_left ordered]
  have split : (String.ofList cs).toList =
      cs.take start ++ (cs.take stop).drop start ++ cs.drop stop := by
    rw [String.toList_ofList, ← front, List.take_append_drop, List.take_append_drop]
  have size : ∀ {count}, count ≤ cs.length → byteLength (cs.take count) = count := by
    intro count below
    rw [byteLength_of_digits fun c member => digits c (List.mem_of_mem_take member),
      List.length_take, Nat.min_eq_left below]
  have slice := slice?_byteLength split
  rw [← front, List.take_append_drop, front, size inside,
    size (Nat.le_trans ordered inside)] at slice
  rw [hexAt?, slice, Option.map_some, String.toList_ofList, hexValue_eq_foldl part]

/-! ## Case and white space -/

/-- A capital letter comes thirty-two codes before the small one, and nothing else changes. -/
theorem lowerAscii_cases (c : Char) :
    (65 ≤ c.toNat ∧ c.toNat ≤ 90 ∧ (lowerAscii c).toNat = c.toNat + 32) ∨ lowerAscii c = c := by
  unfold lowerAscii
  split
  · rename_i capital
    have capital : 65 ≤ c.toNat ∧ c.toNat ≤ 90 := capital
    have valid : (c.toNat + 32).isValidChar := .inl (by omega)
    refine .inl ⟨capital.1, capital.2, ?_⟩
    rw [Char.ofNat, dif_pos valid]
    rfl
  · exact .inr rfl

/-- **A digit is worth the same in either case.** -/
theorem hexDigit?_lowerAscii (c : Char) : hexDigit? (lowerAscii c) = hexDigit? c := by
  rcases lowerAscii_cases c with ⟨_, _, code⟩ | same
  · rcases hexDigit?_cases c with decimal | small | ⟨_, _, found⟩ | ⟨_, _, _, found⟩
    · omega
    · omega
    · rcases hexDigit?_cases (lowerAscii c) with decimal | ⟨_, _, found'⟩ | capital | other
      · omega
      · rw [found, found', code]
        exact congrArg some (by omega)
      · omega
      · omega
    · rcases hexDigit?_cases (lowerAscii c) with decimal | small | capital | ⟨_, _, _, found'⟩
      · omega
      · omega
      · omega
      · rw [found, found']
  · rw [same]

theorem isBlank_lowerAscii (c : Char) : isBlank (lowerAscii c) = isBlank c := by
  rcases lowerAscii_cases c with ⟨_, _, code⟩ | same
  · rw [isBlank, isBlank, code, Bool.eq_iff_iff]
    simp
    omega
  · rw [same]

/-- Trimming and a change of letters that leaves white space alone do not get in each other's way. -/
theorem trimChars_map {change : Char → Char} (blanks : ∀ c, isBlank (change c) = isBlank c)
    (cs : List Char) : trimChars (cs.map change) = (trimChars cs).map change := by
  have same : isBlank ∘ change = isBlank := funext blanks
  unfold trimChars dropRightWhile
  rw [List.dropWhile_map, same, ← List.map_reverse, List.dropWhile_map, same, ← List.map_reverse]

theorem dropWhile_isBlank_append {before cs : List Char}
    (blanks : ∀ c ∈ before, isBlank c = true) (first : ∀ c ∈ cs.head?, isBlank c = false) :
    (before ++ cs).dropWhile isBlank = cs := by
  rw [List.dropWhile_append_of_pos blanks]
  cases cs with
  | nil => rfl
  | cons c cs => exact List.dropWhile_cons_of_neg (Bool.eq_false_iff.mp (first c rfl))

/-- What is between white space and has none at its ends is what trimming leaves. -/
theorem trimChars_append {before cs after : List Char}
    (blanks : ∀ c ∈ before ++ after, isBlank c = true)
    (first : ∀ c ∈ cs.head?, isBlank c = false) (last : ∀ c ∈ cs.getLast?, isBlank c = false) :
    trimChars (before ++ cs ++ after) = cs := by
  obtain ⟨front, back⟩ := List.forall_mem_append.mp blanks
  unfold trimChars
  cases cs with
  | nil =>
      rw [List.append_nil, ← List.append_nil (before ++ after),
        dropWhile_isBlank_append blanks first]
      rfl
  | cons c cs =>
      have back : ∀ c ∈ after.reverse, isBlank c = true := fun c member =>
        back c (List.mem_reverse.mp member)
      have opening : ∀ d ∈ (c :: cs ++ after).head?, isBlank d = false := first
      rw [← List.head?_reverse] at last
      rw [List.append_assoc, dropWhile_isBlank_append front opening, dropRightWhile,
        List.reverse_append, dropWhile_isBlank_append back last, List.reverse_reverse]

/-- There is nothing to trim where there is no white space. -/
theorem trimChars_eq_self {cs : List Char} (solid : ∀ c ∈ cs, isBlank c = false) :
    trimChars cs = cs := by
  have trimmed : trimChars ([] ++ cs ++ []) = cs :=
    trimChars_append (List.forall_mem_nil _) (fun c first => solid c (List.mem_of_head? first))
      fun c last => solid c (List.mem_of_getLast? last)
  rwa [List.nil_append, List.append_nil] at trimmed

/-- **What trimming leaves.**  What is cut off is white space, and what is left has none at its
ends. -/
theorem exists_trimChars (cs : List Char) :
    ∃ before after, cs = before ++ trimChars cs ++ after ∧
      (∀ c ∈ before ++ after, isBlank c = true) ∧
      (∀ c ∈ (trimChars cs).head?, isBlank c = false) ∧
      ∀ c ∈ (trimChars cs).getLast?, isBlank c = false := by
  have last : trimChars cs = (cs.dropWhile isBlank).rdropWhile isBlank := rfl
  obtain ⟨rest, first⟩ : (cs.dropWhile isBlank).rdropWhile isBlank <+: cs.dropWhile isBlank :=
    List.rdropWhile_prefix ..
  refine ⟨cs.takeWhile isBlank, (cs.dropWhile isBlank).rtakeWhile isBlank, ?_, ?_, ?_, ?_⟩
  · rw [last, List.append_assoc, List.rdropWhile_append_rtakeWhile, List.takeWhile_append_dropWhile]
  · intro c member
    rcases List.mem_append.mp member with front | back
    · exact List.mem_takeWhile_imp front
    · exact List.mem_rtakeWhile_imp back
  · intro c head
    have notBlank := List.head?_dropWhile_not isBlank cs
    rw [last, Option.mem_def] at head
    rwa [← first, List.head?_append, head] at notBlank
  · intro c isLast
    rw [last] at isLast
    obtain ⟨nonempty, rfl⟩ := List.mem_getLast?_eq_getLast isLast
    exact Bool.eq_false_iff.mpr (List.rdropWhile_last_not isBlank _ nonempty)

end MarkdownPager.Text
