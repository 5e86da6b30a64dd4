import BindingStubs.Json.Reader
import BindingStubs.Json.Record
import BindingStubs.Json.Writer
import Mathlib.Tactic.SplitIfs

namespace BindingStubs.Json

/-!
# Reading tokens back

A quoted string is read back as the string it quotes, whatever its characters.  A numeral is
read up to what follows it, and has its value if that fits into 64 bits; a greater one is no
natural number for the reader.
-/

/-! ## Strings -/

/-- Control characters have four hexadecimal digits, which give back their number. -/
theorem readHexDigits?_hexPadded :
    ∀ value < 0x20,
      (Text.hexPadded 4 value).length = 4 ∧
        Text.readHexDigits? (Text.hexPadded 4 value) = some value := by
  decide

/-- A low unit stands for the character with its number. -/
theorem assemble?_unit
    {value : Nat}
    (low : value < 0xD800)
    (units : List StringUnit) :
    assemble? (.unit value :: units) = (assemble? units).map (Char.ofNat value :: ·) := by
  have notLeading : isLeading value = false := by simp [isLeading]; omega
  have notTrailing : isTrailing value = false := by simp [isTrailing]; omega
  cases units with
  | nil => simp [assemble?, notLeading, notTrailing]
  | cons unit rest =>
      cases unit with
      | character other => simp [assemble?, notLeading, notTrailing]
      | unit other => simp [assemble?, notLeading, notTrailing]

/-- The escape of a character is read as one unit, which stands for the character. -/
theorem exists_unit_of_escapeCharacter
    (character : Char) :
    ∃ unit,
      (∀ rest,
        readUnits? (escapeCharacter character ++ rest) =
          (readUnits? rest).map fun read => (unit :: read.1, read.2)) ∧
        ∀ units, assemble? (unit :: units) = (assemble? units).map (character :: ·) := by
  unfold escapeCharacter
  -- The first seven characters have escapes of one letter.
  iterate 7
    split
    · rename_i isSpecial
      subst isSpecial
      exact ⟨.character _, fun _ => rfl, fun _ => rfl⟩
  split
  · rename_i isControl
    obtain ⟨fourDigits, value⟩ := readHexDigits?_hexPadded character.toNat isControl
    obtain ⟨a, b, c, d, digits⟩ : ∃ a b c d, Text.hexPadded 4 character.toNat = [a, b, c, d] := by
      match Text.hexPadded 4 character.toNat, fourDigits with
      | [a, b, c, d], _ => exact ⟨a, b, c, d, rfl⟩
    rw [digits] at value ⊢
    refine ⟨.unit character.toNat, fun rest => ?_, fun units => ?_⟩
    · simp [readUnits?, value]
    · rw [assemble?_unit (by omega), Char.ofNat_toNat]
  · rename_i _ notBackslash _ _ _ _ _ notControl
    refine ⟨.character character, fun rest => ?_, fun _ => rfl⟩
    simp [readUnits?, notBackslash, notControl]

/-- A quoted string is read back. -/
theorem readUnits?_quoted
    (text rest : List Char) :
    ∃ units,
      readUnits? (text.flatMap escapeCharacter ++ '"' :: rest) = some (units, rest) ∧
        assemble? units = some text := by
  induction text with
  | nil => exact ⟨[], rfl, rfl⟩
  | cons character text inductionHypothesis =>
      obtain ⟨units, reads, assembles⟩ := inductionHypothesis
      obtain ⟨unit, readsUnit, assemblesUnit⟩ := exists_unit_of_escapeCharacter character
      refine ⟨unit :: units, ?_, ?_⟩
      · rw [List.flatMap_cons, List.append_assoc, readsUnit, reads, Option.map_some]
      · rw [assemblesUnit, assembles, Option.map_some]

/-! ## Numbers -/

/-- What may follow a value: nothing, a blank, a comma or a closing bracket. -/
def Closes
    (rest : List Char) :
    Prop :=
  ∀ character ∈ rest.head?,
    isBlank character ∨ character = ',' ∨ character = ']' ∨ character = '\x7d'

/-- The numeral of a natural number. -/
def numeralOf
    (value : Nat) :
    Numeral :=
  { isNegative := false
    whole := (Text.ofNat value).toList
    fraction := none
    exponent := none }

theorem toList_ofNat
    (value : Nat) :
    (Text.ofNat value).toList = Nat.toDigits 10 value :=
  Nat.toList_repr

theorem isDigit_of_mem_ofNat
    {value : Nat}
    {character : Char}
    (member : character ∈ (Text.ofNat value).toList) :
    Numeral.isDigit character = true := by
  rw [toList_ofNat] at member
  have digit := Nat.isDigit_of_mem_toDigits (by decide) (by decide) member
  simpa [Numeral.isDigit, Char.isDigit, Char.le_def] using digit

/-- Only the numeral of zero starts with a zero. -/
theorem ofNat_eq_cons
    (value : Nat) :
    ∃ first rest, (Text.ofNat value).toList = first :: rest ∧ (first = '0' → value = 0) := by
  rw [toList_ofNat]
  induction value using Nat.strongRecOn with
  | ind value inductionHypothesis =>
      by_cases small : value < 10
      · have zeroDigit : ∀ digit < 10, Nat.digitChar digit = '0' → digit = 0 := by decide
        exact ⟨_, [], Nat.toDigits_of_lt_base small, zeroDigit value small⟩
      · obtain ⟨first, rest, digits, leading⟩ :=
          inductionHypothesis (value / 10) (Nat.div_lt_self (by omega) (by decide))
        rw [Nat.toDigits_of_base_le (by decide) (Nat.le_of_not_lt small), digits]
        refine ⟨first, _, rfl, fun isZero => ?_⟩
        have := leading isZero
        omega

theorem Closes.not_digit
    {character : Char}
    {rest : List Char}
    (closes : Closes (character :: rest)) :
    Numeral.isDigit character = false ∧ character ≠ '.' ∧ character ≠ 'e' ∧ character ≠ 'E' := by
  rcases closes character rfl with blank | rfl | rfl | rfl
  · simp only [isBlank, Bool.or_eq_true, beq_iff_eq] at blank
    rcases blank with ((rfl | rfl) | rfl) | rfl <;> decide
  all_goals decide

theorem scanWhole?_ofNat
    (value : Nat)
    {rest : List Char}
    (closes : Closes rest) :
    Numeral.scanWhole? ((Text.ofNat value).toList ++ rest) =
      some ((Text.ofNat value).toList, rest) := by
  have digits : ∀ character ∈ (Text.ofNat value).toList, Numeral.isDigit character = true :=
    fun _ => isDigit_of_mem_ofNat
  have stops : rest.takeWhile Numeral.isDigit = [] ∧ rest.dropWhile Numeral.isDigit = rest := by
    cases rest with
    | nil => exact ⟨rfl, rfl⟩
    | cons character rest => simp [closes.not_digit.1]
  obtain ⟨first, more, spelled, leading⟩ := ofNat_eq_cons value
  by_cases isZero : first = '0'
  · obtain rfl := leading isZero
    have zeroText : (Text.ofNat 0).toList = ['0'] := by decide
    rw [zeroText]
    cases rest with
    | nil => rfl
    | cons character rest => simp [Numeral.scanWhole?, closes.not_digit.1]
  · have taken :
        ((Text.ofNat value).toList ++ rest).takeWhile Numeral.isDigit =
          (Text.ofNat value).toList := by
      rw [List.takeWhile_append_of_pos digits, stops.1, List.append_nil]
    have dropped :
        ((Text.ofNat value).toList ++ rest).dropWhile Numeral.isDigit = rest := by
      rw [List.dropWhile_append_of_pos digits, stops.2]
    rw [spelled] at taken dropped ⊢
    rw [List.cons_append] at taken dropped ⊢
    rw [Numeral.scanWhole?]
    · rw [taken, dropped]
      rfl
    · rintro _ ⟨⟩
      exact isZero rfl

/-- The digits of a number are scanned up to what follows them. -/
theorem scan?_ofNat
    (value : Nat)
    {rest : List Char}
    (closes : Closes rest) :
    Numeral.scan? ((Text.ofNat value).toList ++ rest) = some (numeralOf value, rest) := by
  have whole := scanWhole?_ofNat value closes
  have noFraction : Numeral.scanFraction? rest = some (none, rest) := by
    cases rest with
    | nil => rfl
    | cons character rest => simp [Numeral.scanFraction?, closes.not_digit.2.1]
  have noExponent : Numeral.scanExponent? rest = some (none, rest) := by
    cases rest with
    | nil => rfl
    | cons character rest => simp [Numeral.scanExponent?, closes.not_digit.2.2]
  obtain ⟨first, more, spelled, _⟩ := ofNat_eq_cons value
  have unsigned : first ≠ '-' := by
    rintro rfl
    have digit := isDigit_of_mem_ofNat (spelled ▸ List.mem_cons_self ..)
    exact absurd digit (by decide)
  rw [numeralOf]
  rw [spelled, List.cons_append] at whole ⊢
  simp [Numeral.scan?, unsigned, whole, noFraction, noExponent]

theorem digitsValue_ofNat
    (value : Nat) :
    Numeral.digitsValue (Text.ofNat value).toList = value := by
  rw [toList_ofNat]
  have reads := Nat.ofDigitChars_toDigits (b := 10) (n := value) (by decide) (by decide)
  simpa [Numeral.digitsValue, Nat.ofDigitChars, Nat.mul_comm] using reads

theorem real_of_signed
    {isNegative : Bool}
    {magnitude : Float}
    {number : JsonNumber}
    (isValue : some (Numeral.signed isNegative magnitude) = some number) :
    ∃ bits, number = .real bits := by
  cases isValue
  exact ⟨_, rfl⟩

/-- A scaled significand is never a natural number. -/
theorem scale?_eq_real
    {isNegative : Bool}
    {steps : Nat}
    {magnitude : Float}
    {exponent : Int}
    {number : JsonNumber}
    (isValue : Numeral.scale? isNegative steps magnitude exponent = some number) :
    ∃ bits, number = .real bits := by
  induction steps generalizing magnitude exponent with
  | zero => exact real_of_signed isValue
  | succ steps inductionHypothesis =>
      simp only [Numeral.scale?] at isValue
      split_ifs at isValue
      · exact real_of_signed isValue
      · exact real_of_signed isValue
      · exact real_of_signed isValue
      · exact inductionHypothesis isValue

theorem realValue?_eq_real
    {numeral : Numeral}
    {number : JsonNumber}
    (isValue : numeral.realValue? = some number) :
    ∃ bits, number = .real bits := by
  simp only [Numeral.realValue?] at isValue
  split at isValue
  · exact scale?_eq_real isValue
  · split_ifs at isValue
    all_goals first
      | exact scale?_eq_real isValue
      | exact real_of_signed isValue

/-- The numeral of a natural number of 64 bits is read as that number. -/
theorem value?_numeralOf
    {value : Nat}
    (fits : value < Width.limit 64) :
    (numeralOf value).value? = some (.natural value) := by
  have digits : Numeral.digitsValue (numeralOf value).whole = value := digitsValue_ofNat value
  rw [Numeral.value?, digits]
  simp [numeralOf, fits]

/-- The numeral of a natural number below a limit of at most 64 bits is read under that limit. -/
theorem below?_numeralOf_of_lt
    {value limit : Nat}
    (isBelow : value < limit)
    (narrow : limit ≤ Width.limit 64) :
    below? limit (numberValue (numeralOf value)) = some value := by
  simp [numberValue, value?_numeralOf (Nat.lt_of_lt_of_le isBelow narrow), below?, isBelow]

/-- Where the numeral of a natural number is read as a natural number, it is read as the same. -/
theorem below?_numeralOf
    {value read limit : Nat}
    (isBelow : below? limit (numberValue (numeralOf value)) = some read) :
    read = value := by
  have digits : Numeral.digitsValue (numeralOf value).whole = value := digitsValue_ofNat value
  by_cases fits : value < Width.limit 64
  · simp only [numberValue, value?_numeralOf fits, below?] at isBelow
    split_ifs at isBelow
    cases isBelow
    rfl
  · have notNatural : (numeralOf value).value? = (numeralOf value).realValue? := by
      rw [Numeral.value?, digits]
      simp [numeralOf, fits]
    cases real : (numeralOf value).realValue? with
    | none => simp [numberValue, notNatural, real, below?] at isBelow
    | some number =>
        obtain ⟨bits, rfl⟩ := realValue?_eq_real real
        simp [numberValue, notNatural, real, below?] at isBelow

end BindingStubs.Json
