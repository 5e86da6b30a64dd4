import BindingStubs.Dump.PrintedString
import BindingStubs.Proofs.Text.Utf8
import Mathlib.Data.Nat.Digits.Defs

namespace BindingStubs.PrintedString

/-!
# Printed string literals read back

A character of a string literal can be printed in several ways, which `PrintsCharacter` lists.
Each escape is as long as it says, so that what follows it is never taken for a part of it, and each
way of printing stands for the bytes of its character.  Bytes that several escapes contribute to
one character are put together again when the whole is read.
-/

/-! ## The ways to print a string -/

/-- The control characters that can be printed by a letter behind a backslash. -/
def controlLetters : List (Char × Char) :=
  [('\n', 'n'), ('\t', 't'), ('\r', 'r'), ('\x07', 'a'), ('\x08', 'b'), ('\x0c', 'f'),
   ('\x0b', 'v'), ('\x1b', 'e')]

/-- The escape of a byte by three octal digits. -/
def octalEscape
    (byte : UInt8) :
    List Char :=
  ['\\', Nat.digitChar (byte.toNat / 64), Nat.digitChar (byte.toNat / 8 % 8),
    Nat.digitChar (byte.toNat % 8)]

/-- A hexadecimal digit, in either case. -/
def IsHexDigit
    (digit : Char)
    (value : Nat) :
    Prop :=
  value < 16 ∧ (digit = Nat.digitChar value ∨ digit = (Nat.digitChar value).toUpper)

instance
    (digit : Char)
    (value : Nat) :
    Decidable (IsHexDigit digit value) :=
  inferInstanceAs (Decidable (_ ∧ _))

/-- Digits that write a number in hexadecimal. -/
def WritesHex
    (digits : List Char)
    (number : Nat) :
    Prop :=
  ∃ values, List.Forall₂ IsHexDigit digits values ∧ Nat.ofDigits 16 values.reverse = number

/-- The letters that universal escapes begin with, and the number of their digits. -/
def universalMarks : List (Char × Nat) :=
  [('u', 4), ('U', 8)]

/-- The ways to print a character between the quotes of a literal. -/
inductive PrintsCharacter
    (character : Char) :
    List Char → Prop where
  | plain :
      character ≠ '"' →
      character ≠ '\\' →
      PrintsCharacter character [character]
  | escaped :
      character = '"' ∨ character = '\\' →
      PrintsCharacter character ['\\', character]
  | letter
      {letter : Char} :
      (character, letter) ∈ controlLetters →
      PrintsCharacter character ['\\', letter]
  | octal :
      PrintsCharacter character ((String.utf8EncodeChar character).flatMap octalEscape)
  | universal
      {mark : Char}
      {digits : List Char} :
      (mark, digits.length) ∈ universalMarks →
      WritesHex digits character.toNat →
      PrintsCharacter character ('\\' :: mark :: digits)

/-- The ways to print a text between the quotes of a literal, character by character. -/
inductive Prints : List Char → List Char → Prop where
  | nil :
      Prints [] []
  | cons
      {character : Char}
      {rest printed others : List Char} :
      PrintsCharacter character printed →
      Prints rest others →
      Prints (character :: rest) (printed ++ others)

/-! ## Reading one escape -/

section Escapes

variable
    {character : Char}
    {digits : List Char}

theorem bytes_of_ne_backslash
    (plain : character ≠ '\\')
    (following : List Char) :
    bytes (character :: following) = String.utf8EncodeChar character ++ bytes following := by
  rw [bytes]
  · simp [Text.encodeUtf8]
  · simp [plain]
  · simp [plain]

theorem bytes_escape
    (escape : Char)
    (following : List Char) :
    bytes ('\\' :: escape :: following) =
      (escapeBytes escape following).1 ++
        bytes (following.drop (escapeBytes escape following).2) := by
  rw [bytes]

/-- The digits of an octal escape have their values, and are no letters of other escapes. -/
theorem octal_facts :
    ∀ value < 8,
      octalDigitValue? (Nat.digitChar value) = some value ∧
        letterEscapes.lookup (Nat.digitChar value) = none := by
  decide

theorem bytes_octalEscape_append
    (byte : UInt8)
    (following : List Char) :
    bytes (octalEscape byte ++ following) = byte :: bytes following := by
  have small : byte.toNat < 256 := byte.toNat_lt
  obtain ⟨first, noLetter⟩ := octal_facts (byte.toNat / 64) (by omega)
  obtain ⟨second, -⟩ := octal_facts (byte.toNat / 8 % 8) (by omega)
  obtain ⟨third, -⟩ := octal_facts (byte.toNat % 8) (by omega)
  have whole : (byte.toNat / 64 * 8 + byte.toNat / 8 % 8) * 8 + byte.toNat % 8 = byte.toNat := by
    omega
  simp [octalEscape, bytes_escape, escapeBytes, noLetter, first, second, third, numberOf, whole]

theorem bytes_octalEscapes_append
    (encoded : List UInt8)
    (following : List Char) :
    bytes (encoded.flatMap octalEscape ++ following) = encoded ++ bytes following := by
  induction encoded with
  | nil => rfl
  | cons byte rest inductionHypothesis =>
      rw [List.flatMap_cons, List.append_assoc, bytes_octalEscape_append, inductionHypothesis,
        List.cons_append]

/-- A letter that stands for a control character stands for its only byte. -/
theorem letter_facts :
    ∀ entry ∈ controlLetters,
      (letterEscapes.lookup entry.2).map ([·]) = some (String.utf8EncodeChar entry.1) := by
  decide

theorem bytes_letter_append
    {letter : Char}
    (member : (character, letter) ∈ controlLetters)
    (following : List Char) :
    bytes ('\\' :: letter :: following) =
      String.utf8EncodeChar character ++ bytes following := by
  obtain ⟨byte, found, isByte⟩ := Option.map_eq_some_iff.mp (letter_facts _ member)
  simp [bytes_escape, escapeBytes, found, ← isByte]

theorem hexDigit_facts :
    ∀ value < 16,
      Text.hexDigitValue? (Nat.digitChar value) = some value ∧
        Text.hexDigitValue? (Nat.digitChar value).toUpper = some value := by
  decide

theorem IsHexDigit.hexDigitValue?_eq
    {digit : Char}
    {value : Nat}
    (isDigit : IsHexDigit digit value) :
    Text.hexDigitValue? digit = some value := by
  obtain ⟨small, rfl | rfl⟩ := isDigit
  · exact (hexDigit_facts value small).1
  · exact (hexDigit_facts value small).2

/-- Reading digits goes on from the number that is read already. -/
theorem readDigitsFrom_of_isHexDigit
    {values : List Nat}
    (areDigits : List.Forall₂ IsHexDigit digits values)
    (number : Nat) :
    Text.readDigitsFrom Text.hexDigitValue? 16 number digits =
      some (values.foldl (fun number value => number * 16 + value) number) := by
  induction areDigits generalizing number with
  | nil => rfl
  | cons isDigit _ inductionHypothesis =>
      rw [Text.readDigitsFrom, isDigit.hexDigitValue?_eq]
      exact inductionHypothesis _

theorem WritesHex.readHexDigits?_eq
    {number : Nat}
    (writes : WritesHex digits number)
    (nonempty : digits ≠ []) :
    Text.readHexDigits? digits = some number := by
  obtain ⟨values, areDigits, rfl⟩ := writes
  obtain ⟨digit, rest, rfl⟩ := List.exists_cons_of_ne_nil nonempty
  rw [Text.readHexDigits?, readDigitsFrom_of_isHexDigit areDigits, Nat.ofDigits_eq_foldr,
    List.foldr_reverse]
  · congr 2
    funext number value
    rw [Nat.add_comm, Nat.mul_comm]
    rfl
  · nofun

/-- The digits of a universal escape name their character. -/
theorem WritesHex.namedCharacter_eq
    (writes : WritesHex digits character.toNat)
    (nonempty : digits ≠ []) :
    namedCharacter digits = character := by
  have unsigned : ∀ rest, digits ≠ '+' :: rest := by
    rintro rest rfl
    obtain ⟨values, areDigits, -⟩ := writes
    cases areDigits with
    | cons isDigit _ => cases isDigit.hexDigitValue?_eq
  have valid : character.toNat.isValidChar := character.valid
  simp only [namedCharacter, writes.readHexDigits?_eq nonempty, if_pos valid, Char.ofNat_toNat]

theorem escapeBytes_of_universalMark
    {mark : Char}
    {width : Nat}
    (isMark : (mark, width) ∈ universalMarks)
    (following : List Char) :
    0 < width ∧
      escapeBytes mark following =
        (Text.encodeUtf8 [namedCharacter (following.take width)], width) := by
  simp only [universalMarks, List.mem_cons, Prod.mk.injEq, List.not_mem_nil, or_false] at isMark
  rcases isMark with ⟨rfl, rfl⟩ | ⟨rfl, rfl⟩
  · exact ⟨by decide, rfl⟩
  · exact ⟨by decide, rfl⟩

theorem bytes_universal_append
    {mark : Char}
    (isMark : (mark, digits.length) ∈ universalMarks)
    (writes : WritesHex digits character.toNat)
    (following : List Char) :
    bytes ('\\' :: mark :: digits ++ following) =
      String.utf8EncodeChar character ++ bytes following := by
  obtain ⟨positive, read⟩ := escapeBytes_of_universalMark isMark (digits ++ following)
  have nonempty : digits ≠ [] := List.ne_nil_of_length_pos positive
  rw [List.cons_append, List.cons_append, bytes_escape, read, List.take_left, List.drop_left,
    writes.namedCharacter_eq nonempty, Text.encodeUtf8, List.flatMap_singleton]

end Escapes

/-! ## Reading the whole -/

/-- However a character is printed, it is read as its bytes, and nothing else is. -/
theorem bytes_append_of_printsCharacter
    {character : Char}
    {printed : List Char}
    (prints : PrintsCharacter character printed)
    (following : List Char) :
    bytes (printed ++ following) = String.utf8EncodeChar character ++ bytes following := by
  cases prints with
  | plain _ notBackslash => exact bytes_of_ne_backslash notBackslash following
  | escaped isSpecial =>
      rw [List.cons_append, List.singleton_append, bytes_escape]
      rcases isSpecial with rfl | rfl
      · rfl
      · rfl
  | letter member => exact bytes_letter_append member following
  | octal => exact bytes_octalEscapes_append _ following
  | universal isMark writes => exact bytes_universal_append isMark writes following

theorem bytes_of_prints
    {text printed : List Char}
    (prints : Prints text printed) :
    bytes printed = Text.encodeUtf8 text := by
  induction prints with
  | nil => rw [bytes, Text.encodeUtf8, List.flatMap_nil]
  | cons printsFirst _ inductionHypothesis =>
      rw [bytes_append_of_printsCharacter printsFirst, inductionHypothesis, Text.encodeUtf8,
        Text.encodeUtf8, List.flatMap_cons]

/-- Between a first quote and a quote at the end stands the body, whatever quotes it contains. -/
theorem body?_quoted
    {mark : List Char}
    (unquoted : '"' ∉ mark)
    (body : List Char) :
    body? (mark ++ '"' :: body ++ ['"']) = some body := by
  have behindMark :
      (mark ++ '"' :: (body ++ ['"'])).dropWhile (· != '"') = '"' :: (body ++ ['"']) := by
    rw [List.dropWhile_append_of_pos]
    · rfl
    · intro character member
      simpa using fun same : character = '"' => unquoted (same ▸ member)
  rw [List.append_assoc, List.cons_append]
  simp [body?, behindMark]

/--
A string literal decodes to its text, whatever mark stands before the quotes and however each
character of the text is printed between them.
-/
theorem decode_of_prints
    {text : String}
    {mark printed : List Char}
    (unquoted : '"' ∉ mark)
    (prints : Prints text.toList printed) :
    decode (String.ofList (mark ++ '"' :: printed ++ ['"'])) = text := by
  rw [decode, String.toList_ofList, body?_quoted unquoted]
  simp only [bytes_of_prints prints, Text.decodeUtf8_encodeUtf8, String.ofList_toList]

/-- Escapes of every kind side by side: two for the bytes of one letter before a digit, and four
hexadecimal digits in both cases before a letter that could be a fifth. -/
theorem decode_of_prints_mixed_escapes :
    let text := String.ofList ['é', '7', '"', '\n', '€', 'b', '😀']
    let printed :=
      ['\\', '3', '0', '3', '\\', '2', '5', '1', '7', '\\', '"', '\\', 'n',
        '\\', 'u', '2', '0', 'A', 'c', 'b', '\\', 'U', '0', '0', '0', '1', 'f', '6', '0', '0']
    '"' ∉ ['u', '8'] ∧ Prints text.toList printed ∧
      decode (String.ofList (['u', '8'] ++ '"' :: printed ++ ['"'])) = text := by
  intro text printed
  have accent : PrintsCharacter 'é' ['\\', '3', '0', '3', '\\', '2', '5', '1'] := .octal
  have euro : WritesHex ['2', '0', 'A', 'c'] '€'.toNat :=
    ⟨[2, 0, 10, 12], .cons (by decide) (.cons (by decide) (.cons (by decide)
      (.cons (by decide) .nil))), by decide⟩
  have face : WritesHex ['0', '0', '0', '1', 'f', '6', '0', '0'] '😀'.toNat :=
    ⟨[0, 0, 0, 1, 15, 6, 0, 0], .cons (by decide) (.cons (by decide) (.cons (by decide)
      (.cons (by decide) (.cons (by decide) (.cons (by decide) (.cons (by decide)
        (.cons (by decide) .nil))))))), by decide⟩
  have prints : Prints text.toList printed := by
    rw [String.toList_ofList]
    exact .cons accent (.cons (.plain (by decide) (by decide)) (.cons (.escaped (.inl rfl))
      (.cons (.letter (by decide)) (.cons (.universal (by decide) euro)
        (.cons (.plain (by decide) (by decide)) (.cons (.universal (by decide) face) .nil))))))
  have unquoted : '"' ∉ ['u', '8'] := by decide
  exact ⟨unquoted, prints, decode_of_prints unquoted prints⟩

end BindingStubs.PrintedString
