import MarkdownPager.Color.Named
import MarkdownPager.Proofs.HexDigits

/-!
# Reading colours

A text is read as a colour without the white space around it and without one hash sign in front
(`Stripped`), which leaves one text (`stripped_iff`).  This is a hexadecimal colour if it consists
of three, six or eight bytes and each of them is a digit (`IsHexText`), and the channels are then
the numbers between fixed byte offsets of it (`Spells`).  Since all bytes are digits, the text can
be cut at these offsets, and since digits are below sixteen, no channel is too large.

The colour names are not in this grammar: none begins with a hash sign, and each has a letter that
is no digit (`exists_notDigit_of_named?`).  So a text has at most one of the two readings, and
`colors_read_by_grammar` says which.
-/

namespace MarkdownPager.Rgb

open Text (hexDigit? utf8 isHexByte hexAt?)

/-! ## The grammar -/

/-- A text, and what is left of it without the white space around it and without one hash sign. -/
def Stripped (text digits : String) : Prop :=
  ∃ before sign after : List Char,
    text.toList = before ++ (sign ++ digits.toList) ++ after ∧
    (∀ c ∈ before ++ after, Text.isBlank c = true) ∧
    (∀ c ∈ (sign ++ digits.toList).head?, Text.isBlank c = false) ∧
    (∀ c ∈ (sign ++ digits.toList).getLast?, Text.isBlank c = false) ∧
    (sign = ['#'] ∨ sign = [] ∧ digits.toList.head? ≠ some '#')

/-- Three, six or eight bytes, each of them a hexadecimal digit. -/
structure IsHexText (digits : String) : Prop where
  bytes : ∀ byte ∈ utf8 digits, isHexByte byte = true
  size : digits.utf8ByteSize = 3 ∨ digits.utf8ByteSize = 6 ∨ digits.utf8ByteSize = 8

/-- The red, the green and the blue channel as numbers. -/
def channels (color : Rgb) : List Nat := [color.r.toNat, color.g.toNat, color.b.toNat]

/-- The colour that digits spell.  A single digit of a channel counts twice, which is seventeen times
what it is worth, and a fourth pair counts for nothing. -/
inductive Spells (digits : String) (color : Rgb) : Prop where
  | short (size : digits.utf8ByteSize = 3)
    (read : [hexAt? digits 0 1, hexAt? digits 1 2, hexAt? digits 2 3].map (·.map (· * 17)) =
      color.channels.map some)
  | long (size : digits.utf8ByteSize = 6 ∨ digits.utf8ByteSize = 8)
    (read : [hexAt? digits 0 2, hexAt? digits 2 4, hexAt? digits 4 6] = color.channels.map some)

/-! ## What is left of a text -/

/-- A hash sign was in front, or there is none. -/
theorem hexDigitsOf_cases (input : String) :
    Text.trimChars input.toList = '#' :: hexDigitsOf input ∨
      Text.trimChars input.toList = hexDigitsOf input ∧ (hexDigitsOf input).head? ≠ some '#' := by
  unfold hexDigitsOf
  split
  · rename_i digits trimmed
    exact .inl trimmed
  · rename_i noSign
    refine .inr ⟨rfl, fun head => ?_⟩
    obtain ⟨rest, trimmed⟩ := List.head?_eq_some_iff.mp head
    exact noSign rest trimmed

theorem stripped_hexDigitsOf (input : String) : Stripped input (.ofList (hexDigitsOf input)) := by
  obtain ⟨before, after, split, blanks, first, last⟩ := Text.exists_trimChars input.toList
  unfold Stripped
  rw [String.toList_ofList]
  rcases hexDigitsOf_cases input with trimmed | ⟨trimmed, noSign⟩
  · rw [trimmed] at split first last
    exact ⟨before, ['#'], after, split, blanks, first, last, .inl rfl⟩
  · rw [trimmed] at split first last
    exact ⟨before, [], after, split, blanks, first, last, .inr ⟨rfl, noSign⟩⟩

/-- **What is left is one text.** -/
theorem stripped_iff (input digits : String) :
    Stripped input digits ↔ digits = .ofList (hexDigitsOf input) := by
  constructor
  · rintro ⟨before, sign, after, split, blanks, first, last, either⟩
    have trimmed : Text.trimChars input.toList = sign ++ digits.toList := by
      rw [split, Text.trimChars_append blanks first last]
    suffices hexDigitsOf input = digits.toList by rw [this, String.ofList_toList]
    rcases either with rfl | ⟨rfl, noSign⟩
    · rw [hexDigitsOf, trimmed]
      rfl
    · rcases hexDigitsOf_cases input with sign | ⟨same, -⟩
      · rw [List.nil_append] at trimmed
        rw [← trimmed, sign] at noSign
        exact absurd rfl noSign
      · exact same.symm.trans trimmed
  · rintro rfl
    exact stripped_hexDigitsOf input

/-- A change of case leaves the hash sign where it is. -/
theorem lowerAscii_eq_hash {c : Char} (hash : Text.lowerAscii c = '#') : c = '#' := by
  rcases Text.lowerAscii_cases c with ⟨_, _, code⟩ | same
  · have : '#'.toNat = c.toNat + 32 := hash ▸ code
    have : '#'.toNat = 35 := rfl
    omega
  · exact same.symm.trans hash

theorem hexDigitsOf_lowercase (input : String) :
    hexDigitsOf (Text.lowercase input) = (hexDigitsOf input).map Text.lowerAscii := by
  have lowered : Text.trimChars (Text.lowercase input).toList =
      (Text.trimChars input.toList).map Text.lowerAscii := by
    rw [Text.lowercase, String.toList_ofList]
    exact Text.trimChars_map Text.isBlank_lowerAscii input.toList
  rcases hexDigitsOf_cases input with trimmed | ⟨trimmed, noSign⟩
  · rw [trimmed, List.map_cons] at lowered
    rcases hexDigitsOf_cases (Text.lowercase input) with sign | ⟨same, noSign⟩
    · exact (List.cons.inj (sign.symm.trans lowered)).2
    · rw [← same, lowered] at noSign
      exact absurd rfl noSign
  · rw [trimmed] at lowered
    rcases hexDigitsOf_cases (Text.lowercase input) with sign | ⟨same, -⟩
    · obtain ⟨c, rest, digits, hash, -⟩ := List.map_eq_cons_iff.mp (lowered.symm.trans sign)
      rw [digits, List.head?_cons, lowerAscii_eq_hash hash] at noSign
      exact absurd rfl noSign
    · exact same.symm.trans lowered

/-! ## Reading digits -/

/-- Some element has no value, or the values of all of them are found. -/
theorem mapM_cases {α β : Type} (f : α → Option β) (as : List α) :
    ((∃ a ∈ as, f a = none) ∧ as.mapM f = none) ∨
      ∃ bs, as.map f = bs.map some ∧ as.mapM f = some bs := by
  induction as with
  | nil => exact .inr ⟨[], rfl, rfl⟩
  | cons a as ih =>
      rw [List.mapM_cons]
      cases found : f a with
      | none => exact .inl ⟨⟨a, List.mem_cons_self, found⟩, rfl⟩
      | some b =>
          rcases ih with ⟨⟨other, member, missing⟩, fails⟩ | ⟨bs, values, succeeds⟩
          · left
            rw [fails]
            exact ⟨⟨other, List.mem_cons_of_mem a member, missing⟩, rfl⟩
          · right
            rw [succeeds]
            exact ⟨b :: bs, by rw [List.map_cons, found, values, List.map_cons], rfl⟩

/-- Digits spell a colour if there are three, six or eight of them. -/
theorem isSome_ofDigits? : ∀ values : List Nat,
    (ofDigits? values).isSome = true ↔
      values.length = 3 ∨ values.length = 6 ∨ values.length = 8
  | [] | [_] | [_, _] | [_, _, _] | [_, _, _, _] | [_, _, _, _, _] | [_, _, _, _, _, _]
  | [_, _, _, _, _, _, _] | [_, _, _, _, _, _, _, _] => by simp [ofDigits?]
  | _ :: _ :: _ :: _ :: _ :: _ :: _ :: _ :: _ :: _ => by simp [ofDigits?]

/-- Two digits make a channel without loss. -/
theorem toNat_channel {high low : Nat} (highDigit : high < 16) (lowDigit : low < 16) :
    (channel high low).toNat = high * 16 + low := by
  rw [channel, UInt8.toNat_ofNat']
  omega

/-- **Digits spell the colour that is read from them.** -/
theorem spells_of_ofDigits? {cs : List Char} {values : List Nat} {color : Rgb}
    (read : cs.map hexDigit? = values.map some) (spelled : ofDigits? values = some color) :
    Spells (.ofList cs) color := by
  have small := Text.lt_of_map_eq read
  have size : (String.ofList cs).utf8ByteSize = values.length := by
    rw [Text.utf8ByteSize_of_digits (Text.isSome_of_map_eq read), Text.length_of_map_eq read]
  have number := Text.hexAt?_eq read
  unfold ofDigits? at spelled
  split at spelled
  · obtain rfl := Option.some.inj spelled
    simp only [List.forall_mem_cons] at small
    refine .short size ?_
    rw [number 0 1 (by simp) (by simp), number 1 2 (by simp) (by simp),
      number 2 3 (by simp) (by simp)]
    simp [channels, toNat_channel, small]
    omega
  · obtain rfl := Option.some.inj spelled
    simp only [List.forall_mem_cons] at small
    refine .long (.inl size) ?_
    rw [number 0 2 (by simp) (by simp), number 2 4 (by simp) (by simp),
      number 4 6 (by simp) (by simp)]
    simp [channels, toNat_channel, small]
  · obtain rfl := Option.some.inj spelled
    simp only [List.forall_mem_cons] at small
    refine .long (.inr size) ?_
    rw [number 0 2 (by simp) (by simp), number 2 4 (by simp) (by simp),
      number 4 6 (by simp) (by simp)]
    simp [channels, toNat_channel, small]
  · cases spelled

/-! ## The reading of a text -/

/-- **How a text is read.**  A character that is no digit, or digits that spell a colour, or too many
or too few of them. -/
theorem parseHex_cases (input : String) :
    ((∃ c ∈ hexDigitsOf input, hexDigit? c = none) ∧
      parseHex input = .error (.invalidColor input .badDigit)) ∨
    ∃ values, (hexDigitsOf input).map hexDigit? = values.map some ∧
      ((∃ color, ofDigits? values = some color ∧ parseHex input = .ok color) ∨
        ofDigits? values = none ∧ parseHex input = .error (.invalidColor input .badLength)) := by
  unfold parseHex
  rcases mapM_cases hexDigit? (hexDigitsOf input) with ⟨foreign, fails⟩ | ⟨values, read, succeeds⟩
  · rw [fails]
    exact .inl ⟨foreign, rfl⟩
  · rw [succeeds]
    refine .inr ⟨values, read, ?_⟩
    dsimp only
    cases spelled : ofDigits? values with
    | none => exact .inr ⟨rfl, rfl⟩
    | some color => exact .inl ⟨color, rfl, rfl⟩

/-- A text is read when its digits spell a colour. -/
theorem parseHex_eq_ok_iff {input : String} {color : Rgb} :
    parseHex input = .ok color ↔
      ∃ values, (hexDigitsOf input).map hexDigit? = values.map some ∧
        ofDigits? values = some color := by
  constructor
  · intro reads
    rcases parseHex_cases input with
      ⟨-, fails⟩ | ⟨values, read, ⟨found, spelled, succeeds⟩ | ⟨-, fails⟩⟩
    · cases reads.symm.trans fails
    · obtain rfl := Except.ok.inj (reads.symm.trans succeeds)
      exact ⟨values, read, spelled⟩
    · cases reads.symm.trans fails
  · rintro ⟨values, read, spelled⟩
    rcases parseHex_cases input with ⟨⟨c, member, foreign⟩, -⟩ | ⟨values', read', either⟩
    · exact absurd foreign (Option.isSome_iff_ne_none.mp (Text.isSome_of_map_eq read c member))
    · obtain rfl : values' = values :=
        List.map_injective_iff.mpr (fun _ _ => Option.some.inj) (read'.symm.trans read)
      rcases either with ⟨found, spelled', succeeds⟩ | ⟨unspelled, -⟩
      · rw [succeeds, Option.some.inj (spelled'.symm.trans spelled)]
      · cases unspelled.symm.trans spelled

/-- All bytes are digits when all characters are. -/
theorem forall_isHexByte_iff (cs : List Char) :
    (∀ byte ∈ utf8 (.ofList cs), isHexByte byte = true) ↔ ∀ c ∈ cs, (hexDigit? c).isSome := by
  rw [← List.all_eq_true, Text.all_isHexByte_utf8, List.all_eq_true]

/-- A text of the grammar is one whose digits spell a colour. -/
theorem isHexText_iff (cs : List Char) :
    IsHexText (.ofList cs) ↔
      ∃ values, cs.map hexDigit? = values.map some ∧ (ofDigits? values).isSome = true := by
  constructor
  · rintro ⟨bytes, size⟩
    have digits := (forall_isHexByte_iff cs).mp bytes
    rw [Text.utf8ByteSize_of_digits digits] at size
    rcases mapM_cases hexDigit? cs with ⟨⟨c, member, foreign⟩, -⟩ | ⟨values, read, -⟩
    · exact absurd foreign (Option.isSome_iff_ne_none.mp (digits c member))
    · rw [Text.length_of_map_eq read] at size
      exact ⟨values, read, (isSome_ofDigits? values).mpr size⟩
  · rintro ⟨values, read, spelled⟩
    have digits := Text.isSome_of_map_eq read
    refine ⟨(forall_isHexByte_iff cs).mpr digits, ?_⟩
    rw [Text.utf8ByteSize_of_digits digits, Text.length_of_map_eq read]
    exact (isSome_ofDigits? values).mp spelled

/-- **What is read is the grammar.** -/
theorem exists_parseHex_eq_ok_iff (input : String) :
    (∃ color, parseHex input = .ok color) ↔ IsHexText (.ofList (hexDigitsOf input)) := by
  rw [isHexText_iff]
  constructor
  · rintro ⟨color, reads⟩
    obtain ⟨values, read, spelled⟩ := parseHex_eq_ok_iff.mp reads
    exact ⟨values, read, Option.isSome_iff_exists.mpr ⟨color, spelled⟩⟩
  · rintro ⟨values, read, spelled⟩
    obtain ⟨color, spelled⟩ := Option.isSome_iff_exists.mp spelled
    exact ⟨color, parseHex_eq_ok_iff.mpr ⟨values, read, spelled⟩⟩

theorem spells_of_parseHex {input : String} {color : Rgb} (reads : parseHex input = .ok color) :
    Spells (.ofList (hexDigitsOf input)) color := by
  obtain ⟨values, read, spelled⟩ := parseHex_eq_ok_iff.mp reads
  exact spells_of_ofDigits? read spelled

/-- **What is reported about a text outside the grammar.** -/
theorem exists_fault {input : String} (outside : ¬IsHexText (.ofList (hexDigitsOf input))) :
    ∃ fault : ColorFault, parseHex input = .error (.invalidColor input fault) ∧
      (fault.message = "bad hex digit" ↔
        ∃ byte ∈ utf8 (.ofList (hexDigitsOf input)), isHexByte byte = false) := by
  have some_byte : (∃ byte ∈ utf8 (.ofList (hexDigitsOf input)), isHexByte byte = false) ↔
      ¬∀ c ∈ hexDigitsOf input, (hexDigit? c).isSome := by
    rw [← forall_isHexByte_iff]
    simp
  rw [some_byte]
  rcases parseHex_cases input with
    ⟨⟨c, member, foreign⟩, fails⟩ | ⟨values, read, ⟨color, spelled, -⟩ | ⟨-, fails⟩⟩
  · refine ⟨.badDigit, fails, iff_of_true rfl fun digits => ?_⟩
    exact Option.isSome_iff_ne_none.mp (digits c member) foreign
  · refine absurd ((isHexText_iff _).mpr ⟨values, read, ?_⟩) outside
    exact Option.isSome_iff_exists.mpr ⟨color, spelled⟩
  · refine ⟨.badLength, fails, iff_of_false (by decide) fun foreign => ?_⟩
    exact foreign (Text.isSome_of_map_eq read)

/-- **Capital and small letters spell the same colours.** -/
theorem parseHex_lowercase (input : String) (color : Rgb) :
    parseHex (Text.lowercase input) = .ok color ↔ parseHex input = .ok color := by
  have same : (hexDigitsOf (Text.lowercase input)).map hexDigit? =
      (hexDigitsOf input).map hexDigit? := by
    rw [hexDigitsOf_lowercase, List.map_map]
    exact congrArg (List.map · _) (funext Text.hexDigit?_lowerAscii)
  rw [parseHex_eq_ok_iff, parseHex_eq_ok_iff, same]

/-! ## Written colours -/

/-- A written digit is read back, and it is no white space. -/
theorem hexDigit?_hexChar : ∀ n < 16,
    hexDigit? (hexChar n) = some n ∧ Text.isBlank (hexChar n) = false := by
  decide

theorem halves_lt (c : UInt8) : c.toNat / 16 < 16 ∧ c.toNat % 16 < 16 := by
  have := c.toNat_lt
  omega

/-- The digits of a channel. -/
theorem map_hexDigit?_hexPair (c : UInt8) :
    (hexPair c).map hexDigit? = [c.toNat / 16, c.toNat % 16].map some := by
  obtain ⟨high, low⟩ := halves_lt c
  simp only [hexPair, List.map_cons, List.map_nil, (hexDigit?_hexChar _ high).1,
    (hexDigit?_hexChar _ low).1]

theorem isBlank_of_mem_hexPair {c : UInt8} {digit : Char} (member : digit ∈ hexPair c) :
    Text.isBlank digit = false := by
  obtain ⟨high, low⟩ := halves_lt c
  simp only [hexPair, List.mem_cons, List.not_mem_nil, or_false] at member
  rcases member with rfl | rfl
  · exact (hexDigit?_hexChar _ high).2
  · exact (hexDigit?_hexChar _ low).2

/-- A channel is what its two digits say. -/
theorem channel_halves (c : UInt8) : channel (c.toNat / 16) (c.toNat % 16) = c := by
  rw [channel, Nat.div_add_mod', UInt8.ofNat_toNat]

theorem hexDigitsOf_toHex (color : Rgb) :
    hexDigitsOf color.toHex = hexPair color.r ++ hexPair color.g ++ hexPair color.b := by
  have solid : ∀ c ∈ '#' :: hexPair color.r ++ hexPair color.g ++ hexPair color.b,
      Text.isBlank c = false := by
    intro c member
    simp only [List.cons_append, List.mem_cons, List.mem_append] at member
    rcases member with rfl | (red | green) | blue
    · rfl
    · exact isBlank_of_mem_hexPair red
    · exact isBlank_of_mem_hexPair green
    · exact isBlank_of_mem_hexPair blue
  rw [hexDigitsOf, toHex, String.toList_ofList, Text.trimChars_eq_self solid]
  rfl

/-- **A written colour is read back.** -/
theorem parseHex_toHex (color : Rgb) : parseHex color.toHex = .ok color := by
  refine parseHex_eq_ok_iff.mpr ⟨[color.r.toNat / 16, color.r.toNat % 16, color.g.toNat / 16,
    color.g.toNat % 16, color.b.toNat / 16, color.b.toNat % 16], ?_, ?_⟩
  · rw [hexDigitsOf_toHex, List.map_append, List.map_append, map_hexDigit?_hexPair,
      map_hexDigit?_hexPair, map_hexDigit?_hexPair]
    rfl
  · rw [ofDigits?, channel_halves, channel_halves, channel_halves]

/-! ## Names -/

/-- No name begins with a hash sign, and each has a letter that is no digit. -/
theorem notDigit_of_mem_names : ∀ entry ∈ names,
    entry.1.toList.head? ≠ some '#' ∧
      (entry.1.toList.any fun c => (hexDigit? c).isNone) = true := by
  decide

/-- **A name is no hexadecimal colour.** -/
theorem exists_notDigit_of_named? {input : String} {color : Rgb}
    (found : named? input = some color) : ∃ c ∈ hexDigitsOf input, hexDigit? c = none := by
  obtain ⟨before, after, split, -⟩ := List.lookup_eq_some_iff.mp found
  have member : (Text.lowercase (Text.trim input), color) ∈ names := by
    rw [split]
    exact List.mem_append_right before List.mem_cons_self
  have name : (Text.lowercase (Text.trim input)).toList =
      (Text.trimChars input.toList).map Text.lowerAscii := by
    rw [Text.lowercase, Text.trim, String.toList_ofList, String.toList_ofList]
  obtain ⟨noSign, letters⟩ := notDigit_of_mem_names _ member
  obtain ⟨letter, inName, foreign⟩ := List.any_eq_true.mp letters
  rw [name] at noSign inName
  obtain ⟨c, inText, rfl⟩ := List.mem_map.mp inName
  rw [Text.hexDigit?_lowerAscii, Option.isNone_iff_eq_none] at foreign
  rcases hexDigitsOf_cases input with trimmed | ⟨trimmed, -⟩
  · rw [trimmed] at noSign
    exact absurd rfl noSign
  · exact ⟨c, trimmed ▸ inText, foreign⟩

/-- A text is not read both ways. -/
theorem exists_parseHex_eq_error_of_named? {input : String} {color : Rgb}
    (found : named? input = some color) : ∃ failure, parseHex input = .error failure := by
  obtain ⟨c, member, foreign⟩ := exists_notDigit_of_named? found
  cases reads : parseHex input with
  | error failure => exact ⟨failure, rfl⟩
  | ok other =>
      obtain ⟨values, read, -⟩ := parseHex_eq_ok_iff.mp reads
      exact absurd foreign (Option.isSome_iff_ne_none.mp (Text.isSome_of_map_eq read c member))

/-- **One of the two readings.**  A colour is read in the one way in which the text can be read, if
there is one. -/
theorem parse_eq_ok_iff {input : String} {color : Rgb} :
    parse input = .ok color ↔
      (parseHex input = .ok color ∧ named? input = none) ∨
        ((∃ failure, parseHex input = .error failure) ∧ named? input = some color) := by
  unfold parse
  cases reads : parseHex input with
  | ok other =>
      have noName : named? input = none := by
        cases found : named? input with
        | none => rfl
        | some named =>
            obtain ⟨failure, fails⟩ := exists_parseHex_eq_error_of_named? found
            cases reads.symm.trans fails
      simp [noName]
  | error failure =>
      cases found : named? input with
      | none => simp
      | some named => simp

/-- A text that can be read in neither way gets the fault of the first one. -/
theorem parse_eq_error_iff {input : String} {failure : Error} :
    parse input = .error failure ↔ parseHex input = .error failure ∧ named? input = none := by
  unfold parse
  cases reads : parseHex input with
  | ok other => simp
  | error fault =>
      cases found : named? input with
      | none => simp
      | some named => simp

/-- **Colours are read by their grammar.**  Take what is left of a text without the white space
around it and without one hash sign in front, which is one text.  The text is a hexadecimal colour
exactly when that is three, six or eight bytes, each of them a digit, and its channels are then the
numbers that stand there, all of which can be cut out and none of which is too large.  Any other
text is reported as it was given, and as one with a bad digit exactly when one of the bytes is no
digit.  The case of letters makes no difference, and every colour is read back from the way it is
written.

Together with the names, a text is read in the one of the two ways that succeeds.  If neither does,
the fault is that of the hexadecimal reading, and it never happens that both do. -/
theorem colors_read_by_grammar (input : String) :
    ∃ digits : String,
      (∀ text, Stripped input text ↔ text = digits) ∧
      ((∃ color, parseHex input = .ok color) ↔ IsHexText digits) ∧
      (∀ color, parseHex input = .ok color → Spells digits color) ∧
      (¬IsHexText digits → ∃ fault : ColorFault,
        parseHex input = .error (.invalidColor input fault) ∧
          (fault.message = "bad hex digit" ↔ ∃ byte ∈ utf8 digits, isHexByte byte = false)) ∧
      (∀ other, Text.lowercase other = Text.lowercase input →
        ∀ color, parseHex other = .ok color ↔ parseHex input = .ok color) ∧
      (∀ color : Rgb, parseHex color.toHex = .ok color) ∧
      (∀ color, parse input = .ok color ↔
        (parseHex input = .ok color ∧ named? input = none) ∨
          ((∃ failure, parseHex input = .error failure) ∧ named? input = some color)) ∧
      ∀ failure, parse input = .error failure ↔
        parseHex input = .error failure ∧ named? input = none := by
  refine ⟨.ofList (hexDigitsOf input), stripped_iff input, exists_parseHex_eq_ok_iff input,
    fun color => spells_of_parseHex, exists_fault, fun other same color => ?_, parseHex_toHex,
    fun color => parse_eq_ok_iff, fun failure => parse_eq_error_iff⟩
  rw [← parseHex_lowercase, same, parseHex_lowercase]

/-- Neither two hash signs nor just any three bytes make a colour. -/
example : (parseHex "##fff").toOption = none ∧ (parseHex "é0").toOption = none := by decide

end MarkdownPager.Rgb
