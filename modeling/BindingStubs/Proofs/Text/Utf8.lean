import BindingStubs.Text.Utf8
import Mathlib.Tactic.Common

namespace BindingStubs.Text

/-!
# UTF-8 reads back

Reading the bytes of a text gives the text.  What is read of one character depends on its own bytes
only: the first byte tells how many follow, and the bounds of the second one leave out no character
and admit no shorter writing of another.
-/

/-- A byte with a known value. -/
theorem toNat_byte
    {value : Nat}
    (small : value < 256) :
    (UInt8.ofNat value).toNat = value := by
  rw [UInt8.toNat_ofNat', Nat.mod_eq_of_lt small]

section Lengths

variable
    {first second third fourth : Nat}
    {rest : List UInt8}

theorem decodeCharacter_one
    (ascii : first < 0x80)
    (following : List UInt8) :
    decodeCharacter first following = (Char.ofNat first, 0) := by
  have length : sequenceLength first = 1 := if_pos ascii
  simp only [decodeCharacter, length]

theorem decodeCharacter_two
    (lower : 0xC2 ≤ first)
    (upper : first < 0xE0)
    (continues : isContinuation second = true)
    (small : second < 256) :
    decodeCharacter first (UInt8.ofNat second :: rest) =
      (Char.ofNat ((first - 0xC0) * 0x40 + (second - 0x80)), 1) := by
  have length : sequenceLength first = 2 := by
    grind [sequenceLength]
  simp only [decodeCharacter, length, List.map_cons, toNat_byte small, continues, if_true]

theorem decodeCharacter_three
    (lower : 0xE0 ≤ first)
    (upper : first < 0xF0)
    (secondLower : (secondByteRange first).1 ≤ second)
    (secondUpper : second ≤ (secondByteRange first).2)
    (secondSmall : second < 256)
    (continues : isContinuation third = true)
    (thirdSmall : third < 256) :
    decodeCharacter first (UInt8.ofNat second :: UInt8.ofNat third :: rest) =
      (Char.ofNat ((first - 0xE0) * 0x1000 + (second - 0x80) * 0x40 + (third - 0x80)), 2) := by
  have length : sequenceLength first = 3 := by
    grind [sequenceLength]
  simp only [decodeCharacter, length, List.map_cons, toNat_byte secondSmall,
    toNat_byte thirdSmall, secondLower, secondUpper, continues, decide_true, Bool.and_true,
    if_true]

theorem decodeCharacter_four
    (lower : 0xF0 ≤ first)
    (upper : first < 0xF5)
    (secondLower : (secondByteRange first).1 ≤ second)
    (secondUpper : second ≤ (secondByteRange first).2)
    (secondSmall : second < 256)
    (thirdContinues : isContinuation third = true)
    (thirdSmall : third < 256)
    (fourthContinues : isContinuation fourth = true)
    (fourthSmall : fourth < 256) :
    decodeCharacter first
        (UInt8.ofNat second :: UInt8.ofNat third :: UInt8.ofNat fourth :: rest) =
      (Char.ofNat ((first - 0xF0) * 0x40000 + (second - 0x80) * 0x1000
        + (third - 0x80) * 0x40 + (fourth - 0x80)), 3) := by
  have length : sequenceLength first = 4 := by
    grind [sequenceLength]
  simp only [decodeCharacter, length, List.map_cons, toNat_byte secondSmall,
    toNat_byte thirdSmall, toNat_byte fourthSmall, secondLower, secondUpper, thirdContinues,
    fourthContinues, decide_true, Bool.and_true, if_true]

end Lengths

theorem isContinuation_of_lt
    {value : Nat}
    (small : value < 64) :
    isContinuation (value + 128) = true := by
  simp only [isContinuation, Bool.and_eq_true, decide_eq_true_eq]
  omega

/-! The bounds of a second byte keep shorter writings and surrogates out; no character needs
one outside of them. -/

theorem secondByte_of_three
    {value : Nat}
    (lower : 0x7FF < value)
    (upper : value ≤ 0xFFFF)
    (noSurrogate : value < 0xD800 ∨ 0xDFFF < value) :
    (secondByteRange (value / 4096 % 16 + 224)).1 ≤ value / 64 % 64 + 128 ∧
      value / 64 % 64 + 128 ≤ (secondByteRange (value / 4096 % 16 + 224)).2 := by
  simp only [secondByteRange]
  split_ifs <;> simp only <;> omega

theorem secondByte_of_four
    {value : Nat}
    (lower : 0xFFFF < value)
    (upper : value < 0x110000) :
    (secondByteRange (value / 262144 % 8 + 240)).1 ≤ value / 4096 % 64 + 128 ∧
      value / 4096 % 64 + 128 ≤ (secondByteRange (value / 262144 % 8 + 240)).2 := by
  simp only [secondByteRange]
  split_ifs <;> simp only <;> omega

/-- The bytes of a character as arithmetic on its number. -/
theorem utf8EncodeChar_eq
    (character : Char) :
    String.utf8EncodeChar character =
      if character.toNat ≤ 0x7F then [UInt8.ofNat character.toNat]
      else if character.toNat ≤ 0x7FF then
        [UInt8.ofNat (character.toNat / 64 % 32 + 192),
          UInt8.ofNat (character.toNat % 64 + 128)]
      else if character.toNat ≤ 0xFFFF then
        [UInt8.ofNat (character.toNat / 4096 % 16 + 224),
          UInt8.ofNat (character.toNat / 64 % 64 + 128),
          UInt8.ofNat (character.toNat % 64 + 128)]
      else
        [UInt8.ofNat (character.toNat / 262144 % 8 + 240),
          UInt8.ofNat (character.toNat / 4096 % 64 + 128),
          UInt8.ofNat (character.toNat / 64 % 64 + 128),
          UInt8.ofNat (character.toNat % 64 + 128)] :=
  rfl

/-- The bytes of a character are read as that character, whatever follows. -/
theorem decodeAfter_utf8EncodeChar
    (character : Char)
    (rest : List UInt8) :
    decodeAfter 0 (String.utf8EncodeChar character ++ rest) = character :: decodeAfter 0 rest := by
  have valid : character.toNat.isValidChar := character.valid
  have back : Char.ofNat character.toNat = character := Char.ofNat_toNat character
  have written := utf8EncodeChar_eq character
  generalize character.toNat = value at valid back written
  have bounded : value < 0x110000 ∧ (value < 0xD800 ∨ 0xDFFF < value) := by
    rcases valid with low | ⟨above, high⟩ <;> omega
  rw [written]
  split
  · rename_i one
    rw [List.singleton_append, decodeAfter, toNat_byte (by omega), decodeCharacter_one (by omega),
      back]
  split
  · rename_i two
    simp only [List.cons_append, List.nil_append, decodeAfter, List.take_succ_cons]
    rw [toNat_byte (by omega), decodeCharacter_two (by omega) (by omega)
      (isContinuation_of_lt (by omega)) (by omega)]
    have whole : (value / 64 % 32 + 192 - 0xC0) * 0x40 + (value % 64 + 128 - 0x80) = value := by
      omega
    simp only [whole, back, decodeAfter]
  split
  · rename_i three
    simp only [List.cons_append, List.nil_append, decodeAfter, List.take_succ_cons]
    have second := secondByte_of_three (by omega) three bounded.2
    rw [toNat_byte (by omega), decodeCharacter_three (by omega) (by omega) second.1 second.2
      (by omega) (isContinuation_of_lt (by omega)) (by omega)]
    have whole :
        (value / 4096 % 16 + 224 - 0xE0) * 0x1000 + (value / 64 % 64 + 128 - 0x80) * 0x40
          + (value % 64 + 128 - 0x80) = value := by
      omega
    simp only [whole, back, decodeAfter]
  · rename_i four
    simp only [List.cons_append, List.nil_append, decodeAfter, List.take_succ_cons]
    have second := secondByte_of_four (Nat.lt_of_not_le four) bounded.1
    rw [toNat_byte (by omega), decodeCharacter_four (by omega) (by omega) second.1 second.2
      (by omega) (isContinuation_of_lt (by omega)) (by omega) (isContinuation_of_lt (by omega))
      (by omega)]
    have whole :
        (value / 262144 % 8 + 240 - 0xF0) * 0x40000 + (value / 4096 % 64 + 128 - 0x80) * 0x1000
          + (value / 64 % 64 + 128 - 0x80) * 0x40 + (value % 64 + 128 - 0x80) = value := by
      omega
    simp only [whole, back, decodeAfter]

/-- The bytes of a text are read as that text. -/
theorem decodeUtf8_encodeUtf8
    (text : List Char) :
    decodeUtf8 (encodeUtf8 text) = text := by
  rw [decodeUtf8, encodeUtf8]
  induction text with
  | nil => rfl
  | cons character rest inductionHypothesis =>
      rw [List.flatMap_cons, decodeAfter_utf8EncodeChar, inductionHypothesis]

end BindingStubs.Text
