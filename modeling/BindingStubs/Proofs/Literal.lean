import BindingStubs.Literal
import Mathlib.Tactic.Common

namespace BindingStubs.Literal

/-!
# String constants read back

A string constant is written as a Python string in double quotes.  A backslash belongs to what is
written for one character only, and a hexadecimal escape has exactly two digits, so what is written
for a character is read as that character whatever stands around it.
-/

/-! ## Reading -/

/-- What stands before the first quote that no backslash takes, and what follows it. -/
def close? : List Char → Option (List Char × List Char)
  | '\\' :: character :: rest =>
      (close? rest).map fun found => ('\\' :: character :: found.1, found.2)
  | '"' :: rest => some ([], rest)
  | character :: rest => (close? rest).map fun found => (character :: found.1, found.2)
  | [] => none

/-- The character that one letter behind a backslash stands for. -/
def lettered? : Char → Option Char
  | '\\' => some '\\'
  | '"' => some '"'
  | 'n' => some '\n'
  | 't' => some '\t'
  | 'r' => some '\r'
  | _ => none

/-- The text that the inside of a string literal stands for.  A backslash takes one letter, or the
letter `x` and two hexadecimal digits; other escapes and a bare quote are refused. -/
def decode? : List Char → Option (List Char)
  | [] => some []
  | '\\' :: 'x' :: high :: low :: rest =>
      (Text.readHexDigits? [high, low]).bind fun value =>
        (decode? rest).map (Char.ofNat value :: ·)
  | '\\' :: letter :: rest =>
      (lettered? letter).bind fun character => (decode? rest).map (character :: ·)
  | ['\\'] => none
  | '"' :: _ => none
  | character :: rest => (decode? rest).map (character :: ·)

/-! ## Writing -/

/-- A character that is written as itself: it neither escapes nor closes nor controls. -/
structure IsPlain
    (character : Char) :
    Prop where
  ne_backslash : character ≠ '\\'
  ne_quote : character ≠ '"'
  le_toNat : 0x20 ≤ character.toNat

instance (character : Char) : Decidable (IsPlain character) :=
  decidable_of_iff (character ≠ '\\' ∧ character ≠ '"' ∧ 0x20 ≤ character.toNat)
    ⟨fun ⟨neBackslash, neQuote, visible⟩ => ⟨neBackslash, neQuote, visible⟩,
      fun ⟨neBackslash, neQuote, visible⟩ => ⟨neBackslash, neQuote, visible⟩⟩

/-- The ways to write a character inside of a string literal. -/
inductive Writes :
    Char → List Char → Prop where
  | letter
      {character letter : Char}
      (stands : lettered? letter = some character)
      (visible : 0x20 ≤ letter.toNat) :
      Writes character ['\\', letter]
  | digits
      {character high low : Char}
      (value : Text.readHexDigits? [high, low] = some character.toNat)
      (plainHigh : IsPlain high)
      (plainLow : IsPlain low) :
      Writes character ['\\', 'x', high, low]
  | plain
      {character : Char}
      (isPlain : IsPlain character) :
      Writes character [character]

/-- Control characters have two hexadecimal digits, which give back their number. -/
theorem hexPadded_two :
    ∀ value < 0x20,
      (Text.hexPadded 2 value).length = 2 ∧
        Text.readHexDigits? (Text.hexPadded 2 value) = some value ∧
        (Text.hexPadded 2 value).all fun digit => decide (IsPlain digit) := by
  decide

theorem writes_hexPadded
    {character : Char}
    (isControl : character.toNat < 0x20) :
    Writes character ('\\' :: 'x' :: Text.hexPadded 2 character.toNat) := by
  obtain ⟨twoDigits, value, areDigits⟩ := hexPadded_two character.toNat isControl
  obtain ⟨high, low, digits⟩ : ∃ high low, Text.hexPadded 2 character.toNat = [high, low] := by
    match Text.hexPadded 2 character.toNat, twoDigits with
    | [high, low], _ => exact ⟨high, low, rfl⟩
  have isPlain : ∀ digit ∈ [high, low], IsPlain digit := by
    intro digit member
    exact of_decide_eq_true (List.all_eq_true.mp areDigits digit (digits ▸ member))
  rw [digits] at value ⊢
  exact .digits value (isPlain high (by simp)) (isPlain low (by simp))

/-- Every character is written in one of these ways. -/
theorem writes_escapeCharacter
    (character : Char) :
    Writes character (escapeCharacter character) := by
  unfold escapeCharacter
  -- The first five characters have escapes of one letter.
  iterate 5
    split
    · rename_i isSpecial
      subst isSpecial
      exact .letter rfl (by decide)
  split
  · rename_i isControl
    exact writes_hexPadded isControl
  · rename_i notQuote notBackslash _ _ _ notControl
    exact .plain ⟨notBackslash, notQuote, Nat.le_of_not_lt notControl⟩

section Writes

variable
    {character : Char}
    {written : List Char}

theorem IsPlain.close?_cons
    (isPlain : IsPlain character)
    (rest : List Char) :
    close? (character :: rest) =
      (close? rest).map fun found => (character :: found.1, found.2) := by
  simp [close?, isPlain.ne_backslash, isPlain.ne_quote]

/-- No quote in what is written for a character closes the literal. -/
theorem Writes.close?_append
    (writes : Writes character written)
    (rest : List Char) :
    close? (written ++ rest) =
      (close? rest).map fun found => (written ++ found.1, found.2) := by
  cases writes with
  | letter stands visible => rfl
  | digits value plainHigh plainLow =>
      rw [List.cons_append, List.cons_append, close?, List.cons_append, plainHigh.close?_cons,
        List.cons_append, plainLow.close?_cons, List.nil_append, Option.map_map, Option.map_map]
      rfl
  | plain isPlain => exact isPlain.close?_cons rest

/-- What is written for a character is read as the character, whatever follows. -/
theorem Writes.decode?_append
    (writes : Writes character written)
    (rest : List Char) :
    decode? (written ++ rest) = (decode? rest).map (character :: ·) := by
  cases writes with
  | @letter letter stands visible =>
      have notDigits : letter ≠ 'x' := by
        rintro rfl
        cases stands
      simp [decode?, stands, notDigits]
  | digits value plainHigh plainLow =>
      simp [decode?, value, Char.ofNat_toNat]
  | plain isPlain =>
      simp [decode?, isPlain.ne_backslash, isPlain.ne_quote]

theorem Writes.le_toNat
    (writes : Writes character written) :
    ∀ other ∈ written, 0x20 ≤ other.toNat := by
  cases writes with
  | letter stands visible => simp [visible]
  | digits value plainHigh plainLow => simp [plainHigh.le_toNat, plainLow.le_toNat]
  | plain isPlain => simp [isPlain.le_toNat]

end Writes

/-! ## Reading back -/

theorem close?_flatMap_escapeCharacter
    (text rest : List Char) :
    close? (text.flatMap escapeCharacter ++ '"' :: rest) =
      some (text.flatMap escapeCharacter, rest) := by
  induction text with
  | nil => rfl
  | cons character text inductionHypothesis =>
      rw [List.flatMap_cons, List.append_assoc,
        (writes_escapeCharacter character).close?_append, inductionHypothesis, Option.map_some]

theorem decode?_flatMap_escapeCharacter
    (text : List Char) :
    decode? (text.flatMap escapeCharacter) = some text := by
  induction text with
  | nil => rfl
  | cons character text inductionHypothesis =>
      rw [List.flatMap_cons, (writes_escapeCharacter character).decode?_append,
        inductionHypothesis, Option.map_some]

/-- No control character stands in a string literal. -/
theorem le_toNat_of_mem_quote
    {text : List Char}
    {character : Char}
    (member : character ∈ quote text) :
    0x20 ≤ character.toNat := by
  have quoteMark : 0x20 ≤ '"'.toNat := by decide
  rw [quote, List.mem_append, List.mem_cons, List.mem_singleton, List.mem_flatMap] at member
  rcases member with (rfl | ⟨original, _, inside⟩) | rfl
  · exact quoteMark
  · exact (writes_escapeCharacter original).le_toNat character inside
  · exact quoteMark

/--
A string constant is written between two quotes on a single line.  The first quote behind the
opening one that no backslash takes is the last character, and what stands between the two is read
as the string.
-/
theorem string_constant_reads_back
    (value : String) :
    ∃ body,
      (Literal.string value).render.toList = '"' :: body ++ ['"'] ∧
        (∀ character ∈ (Literal.string value).render.toList,
          character ≠ '\n' ∧ character ≠ '\r') ∧
        close? (body ++ ['"']) = some (body, []) ∧
        decode? body = some value.toList := by
  have written : (Literal.string value).render.toList = quote value.toList :=
    String.toList_ofList
  refine ⟨value.toList.flatMap escapeCharacter, written, ?_,
    close?_flatMap_escapeCharacter value.toList [], decode?_flatMap_escapeCharacter value.toList⟩
  rw [written]
  intro character member
  have visible := le_toNat_of_mem_quote member
  constructor
  · rintro rfl
    exact absurd visible (by decide)
  · rintro rfl
    exact absurd visible (by decide)

/-- The digits of a hexadecimal escape end where a digit of the text begins. -/
example :
    (Literal.string "\x1f1\\\"").render = "\"\\x1f1\\\\\\\"\"" := by
  decide

end BindingStubs.Literal
