import BindingStubs.Proofs.Json.Tokens

namespace BindingStubs.Json

/-!
# Reading back what was written

A value made of strings, natural numbers, arrays and objects is read back from its text,
whether that is compact or indented.  Only numbers of more than 64 bits come back as something
else.
-/

/-- A value without negative or fractional numbers and without unreadable parts. -/
inductive Plain : Json → Prop where
  | null : Plain .null
  | bool (value : Bool) : Plain (.bool value)
  | natural (value : Nat) : Plain (.number (.natural value))
  | string (text : String) : Plain (.string text)
  | array {items : List Json} : (∀ item ∈ items, Plain item) → Plain (.array items)
  | object {fields : List (String × Json)} :
      (∀ field ∈ fields, Plain field.2) → Plain (.object fields)

mutual

/-- What a value is read back as. -/
def reread : Json → Json
  | .number (.natural value) => numberValue (numeralOf value)
  | .array items => .array (rereadItems items)
  | .object fields => .object (rereadFields fields)
  | other => other

/-- What items are read back as. -/
def rereadItems : List Json → List Json
  | [] => []
  | item :: rest => reread item :: rereadItems rest

/-- What fields are read back as. -/
def rereadFields : List (String × Json) → List (String × Json)
  | [] => []
  | (name, value) :: rest => (name, reread value) :: rereadFields rest

end

theorem rereadItems_eq_map
    (items : List Json) :
    rereadItems items = items.map reread := by
  induction items with
  | nil => rfl
  | cons item rest inductionHypothesis => rw [rereadItems, inductionHypothesis, List.map_cons]

theorem rereadFields_eq_map
    (fields : List (String × Json)) :
    rereadFields fields = fields.map fun field => (field.1, reread field.2) := by
  induction fields with
  | nil => rfl
  | cons field rest inductionHypothesis => rw [rereadFields, inductionHypothesis, List.map_cons]

/-! ## Blanks -/

/-- A layout that puts only blanks between the tokens. -/
structure Layout.Blank
    (layout : Layout) : Prop where
  lineBreak : ∀ level, ∀ character ∈ layout.lineBreak level, isBlank character = true
  afterColon : ∀ character ∈ layout.afterColon, isBlank character = true

theorem Layout.blank_compact : Layout.compact.Blank where
  lineBreak := by simp [compact]
  afterColon := by simp [compact]

theorem Layout.blank_indented : Layout.indented.Blank where
  lineBreak level character member := by
    rcases List.mem_cons.mp member with rfl | isSpace
    · rfl
    · rw [List.eq_of_mem_replicate isSpace]
      rfl
  afterColon := by simp [indented, isBlank]

theorem skipBlanks_append
    {blanks : List Char}
    (blank : ∀ character ∈ blanks, isBlank character = true)
    (text : List Char) :
    skipBlanks (blanks ++ text) = skipBlanks text :=
  List.dropWhile_append_of_pos blank

theorem skipBlanks_cons
    {character : Char}
    (notBlank : isBlank character = false)
    (text : List Char) :
    skipBlanks (character :: text) = character :: text :=
  List.dropWhile_cons_of_neg (by simp [notBlank])

/-- Blanks before a value are passed over. -/
theorem readValue?_append_blanks
    {blanks : List Char}
    (blank : ∀ character ∈ blanks, isBlank character = true)
    (steps : Nat)
    (text : List Char) :
    readValue? steps (blanks ++ text) = readValue? steps text := by
  cases steps with
  | zero => rfl
  | succ steps => rw [readValue?, readValue?, skipBlanks_append blank]

theorem readItems?_append_blanks
    {blanks : List Char}
    (blank : ∀ character ∈ blanks, isBlank character = true)
    (steps : Nat)
    (text : List Char) :
    readItems? steps (blanks ++ text) = readItems? steps text := by
  cases steps with
  | zero => rfl
  | succ steps => rw [readItems?, readItems?, readValue?_append_blanks blank]

theorem readFields?_append_blanks
    {blanks : List Char}
    (blank : ∀ character ∈ blanks, isBlank character = true)
    (steps : Nat)
    (text : List Char) :
    readFields? steps (blanks ++ text) = readFields? steps text := by
  cases steps with
  | zero => rfl
  | succ steps => rw [readFields?, readFields?, skipBlanks_append blank]

theorem closes_append
    {blanks rest : List Char}
    (blank : ∀ character ∈ blanks, isBlank character = true)
    (closes : Closes rest) :
    Closes (blanks ++ rest) := by
  cases blanks with
  | nil => exact closes
  | cons character blanks =>
      rintro _ ⟨⟩
      exact .inl (blank character (List.mem_cons_self ..))

theorem closes_cons
    {character : Char}
    (isMark : character = ',' ∨ character = ']' ∨ character = '\x7d')
    (rest : List Char) :
    Closes (character :: rest) := by
  rintro _ ⟨⟩
  exact .inr isMark

/-! ## Values -/

section Written

variable (layout : Layout) (level : Nat)

theorem writeWith_array
    (item : Json)
    (rest : List Json) :
    writeWith layout level (.array (item :: rest)) =
      '[' :: (layout.lineBreak (level + 1)
        ++ (writeWith layout (level + 1) item
          ++ (writeItems layout (level + 1) rest ++ (layout.lineBreak level ++ [']'])))) := by
  have written :
      writeWith layout level (.array (item :: rest)) =
        '[' :: layout.lineBreak (level + 1) ++ writeWith layout (level + 1) item
          ++ writeItems layout (level + 1) rest ++ layout.lineBreak level ++ [']'] := rfl
  simp [written]

theorem writeWith_object
    (field : String × Json)
    (rest : List (String × Json)) :
    writeWith layout level (.object (field :: rest)) =
      '\x7b' :: (layout.lineBreak (level + 1)
        ++ (writeField layout (level + 1) field
          ++ (writeFields layout (level + 1) rest ++ (layout.lineBreak level ++ ['\x7d'])))) := by
  have written :
      writeWith layout level (.object (field :: rest)) =
        '\x7b' :: layout.lineBreak (level + 1) ++ writeField layout (level + 1) field
          ++ writeFields layout (level + 1) rest ++ layout.lineBreak level ++ ['\x7d'] := rfl
  simp [written]

theorem writeItems_cons
    (item : Json)
    (rest : List Json) :
    writeItems layout level (item :: rest) =
      ',' :: (layout.lineBreak level
        ++ (writeWith layout level item ++ writeItems layout level rest)) := by
  have written :
      writeItems layout level (item :: rest) =
        ',' :: layout.lineBreak level ++ writeWith layout level item
          ++ writeItems layout level rest := rfl
  simp [written]

theorem writeFields_cons
    (field : String × Json)
    (rest : List (String × Json)) :
    writeFields layout level (field :: rest) =
      ',' :: (layout.lineBreak level
        ++ (writeField layout level field ++ writeFields layout level rest)) := by
  have written :
      writeFields layout level (field :: rest) =
        ',' :: layout.lineBreak level ++ writeField layout level field
          ++ writeFields layout level rest := rfl
  simp [written]

end Written

theorem isBlank_of_isDigit
    {character : Char}
    (digit : Numeral.isDigit character = true) :
    isBlank character = false := by
  rw [Bool.eq_false_iff]
  intro blank
  simp only [isBlank, Bool.or_eq_true, beq_iff_eq] at blank
  rcases blank with ((rfl | rfl) | rfl) | rfl
  all_goals exact absurd digit (by decide)

/-- The text of a value starts with a character that is neither blank nor closes an array. -/
theorem writeWith_eq_cons
    (layout : Layout)
    (level : Nat)
    {value : Json}
    (plain : Plain value) :
    ∃ first rest,
      writeWith layout level value = first :: rest ∧ isBlank first = false ∧ first ≠ ']' := by
  cases plain with
  | null => exact ⟨_, _, rfl, by decide, by decide⟩
  | bool value => cases value <;> exact ⟨_, _, rfl, by decide, by decide⟩
  | natural value =>
      obtain ⟨first, rest, spelled, _⟩ := ofNat_eq_cons value
      have digit := isDigit_of_mem_ofNat (spelled ▸ List.mem_cons_self ..)
      refine ⟨first, rest, spelled, isBlank_of_isDigit digit, ?_⟩
      rintro rfl
      exact absurd digit (by decide)
  | string text => exact ⟨'"', _, rfl, by decide, by decide⟩
  | @array items _ =>
      cases items with
      | nil => exact ⟨_, _, rfl, by decide, by decide⟩
      | cons item rest => exact ⟨'[', _, writeWith_array .., by decide, by decide⟩
  | @object fields _ =>
      cases fields with
      | nil => exact ⟨_, _, rfl, by decide, by decide⟩
      | cons field rest => exact ⟨'\x7b', _, writeWith_object .., by decide, by decide⟩

/-- A text that starts with a digit is read as a number. -/
theorem readValue?_of_digit
    {first : Char}
    (digit : Numeral.isDigit first = true)
    (steps : Nat)
    (rest : List Char) :
    readValue? (steps + 1) (first :: rest) =
      (Numeral.scan? (first :: rest)).map fun read => (numberValue read.1, read.2) := by
  rw [readValue?, skipBlanks_cons (isBlank_of_isDigit digit)]
  split
  case h_1 same => cases same
  case h_8 => rfl
  all_goals
    rename_i same
    cases same
    exact absurd digit (by decide)

/-- A quoted string is read as the string. -/
theorem readValue?_quote
    (steps : Nat)
    (text : String)
    (rest : List Char) :
    readValue? (steps + 1) (quote text ++ rest) = some (.string text, rest) := by
  obtain ⟨units, reads, assembles⟩ := readUnits?_quoted text.toList rest
  have spelled :
      quote text ++ rest = '"' :: (text.toList.flatMap escapeCharacter ++ '"' :: rest) := by
    simp [quote]
  have opened :
      ∀ quoted,
        readValue? (steps + 1) ('"' :: quoted) =
          (readUnits? quoted).map fun read => (stringValue read.1, read.2) :=
    fun _ => rfl
  simp [spelled, opened, reads, stringValue, assembles]

/-- Behind an opening bracket items are read. -/
theorem readValue?_bracket
    {blanks : List Char}
    (areBlank : ∀ character ∈ blanks, isBlank character = true)
    {first : Char}
    (notBlank : isBlank first = false)
    (notClosing : first ≠ ']')
    (steps : Nat)
    (rest : List Char) :
    readValue? (steps + 1) ('[' :: (blanks ++ first :: rest)) =
      (readItems? steps (first :: rest)).map fun read => (.array read.1, read.2) := by
  rw [readValue?, skipBlanks_cons (by decide)]
  simp [skipBlanks_append areBlank, skipBlanks_cons notBlank, notClosing]

/-- Behind an opening brace fields are read. -/
theorem readValue?_brace
    {blanks : List Char}
    (areBlank : ∀ character ∈ blanks, isBlank character = true)
    (steps : Nat)
    (rest : List Char) :
    readValue? (steps + 1) ('\x7b' :: (blanks ++ '"' :: rest)) =
      (readFields? steps ('"' :: rest)).map fun read => (.object read.1, read.2) := by
  rw [readValue?, skipBlanks_cons (by decide)]
  simp [skipBlanks_append areBlank, skipBlanks_cons (show isBlank '"' = false by decide)]

theorem exists_step
    {layout : Layout}
    {level : Nat}
    {value : Json}
    (plain : Plain value)
    {steps : Nat}
    (enough : 2 * (writeWith layout level value).length ≤ steps) :
    ∃ fewer, steps = fewer + 1 := by
  obtain ⟨first, rest, spelled, _⟩ := writeWith_eq_cons layout level plain
  rw [spelled, List.length_cons] at enough
  exact Nat.exists_eq_add_one.mpr (by omega)

section Nested

variable {layout : Layout} (blank : layout.Blank) {level : Nat}

/-- Values with enough steps are read back, whatever closes them. -/
def ReadsBack
    (layout : Layout)
    (level : Nat)
    (value : Json) :
    Prop :=
  ∀ steps rest,
    2 * (writeWith layout level value).length ≤ steps →
    Closes rest →
    readValue? steps (writeWith layout level value ++ rest) = some (reread value, rest)

include blank in
/-- Items that are read back one by one are read back as the items of an array. -/
theorem readItems?_writeItems
    {item : Json}
    {rest : List Json}
    (first : ReadsBack layout level item)
    (others : ∀ other ∈ rest, ReadsBack layout level other)
    {blanks : List Char}
    (areBlank : ∀ character ∈ blanks, isBlank character = true)
    (after : List Char)
    {steps : Nat}
    (enough :
      2 * ((writeWith layout level item).length + (writeItems layout level rest).length) <
        steps) :
    readItems? steps
        (writeWith layout level item
          ++ (writeItems layout level rest ++ (blanks ++ ']' :: after))) =
      some (reread item :: rereadItems rest, after) := by
  obtain ⟨steps, rfl⟩ : ∃ fewer, steps = fewer + 1 := Nat.exists_eq_add_one.mpr (by omega)
  induction rest generalizing item steps with
  | nil =>
      have closes : Closes (blanks ++ ']' :: after) :=
        closes_append areBlank (closes_cons (by simp) after)
      have written : writeItems layout level [] = [] := rfl
      simp only [written, List.length_nil] at enough
      simp only [written, List.nil_append, readItems?, first steps _ (by omega) closes,
        skipBlanks_append areBlank, skipBlanks_cons (show isBlank ']' = false by decide),
        rereadItems]
  | cons next rest inductionHypothesis =>
      have closes : ∀ text, Closes (',' :: text) := closes_cons (by simp)
      simp only [writeItems_cons, List.length_cons, List.length_append] at enough
      simp only [writeItems_cons, List.cons_append, List.append_assoc, readItems?,
        first steps _ (by omega) (closes _), skipBlanks_cons (show isBlank ',' = false by decide),
        readItems?_append_blanks (blank.lineBreak level)]
      obtain ⟨steps, rfl⟩ : ∃ fewer, steps = fewer + 1 := Nat.exists_eq_add_one.mpr (by omega)
      rw [inductionHypothesis (others next (List.mem_cons_self ..))
        (fun other member => others other (List.mem_cons_of_mem _ member)) steps (by omega)]
      rfl

/-- What a reading does behind a field of an object: it ends at a closing brace and goes on behind a
comma. -/
def afterField?
    (steps : Nat)
    (field : String × Json)
    (rest : List Char) :
    Option (List (String × Json) × List Char) :=
  match skipBlanks rest with
  | '\x7d' :: after => some ([field], after)
  | ',' :: after => (readFields? steps after).map fun read => (field :: read.1, read.2)
  | _ => none

include blank in
/-- A field is read up to what follows its value. -/
theorem readFields?_writeField
    {field : String × Json}
    (readsBack : ReadsBack layout level field.2)
    {steps : Nat}
    (enough : 2 * (writeField layout level field).length ≤ steps)
    {rest : List Char}
    (closes : Closes rest) :
    readFields? (steps + 1) (writeField layout level field ++ rest) =
      afterField? steps (field.1, reread field.2) rest := by
  obtain ⟨name, value⟩ := field
  let value? := layout.afterColon ++ (writeWith layout level value ++ rest)
  obtain ⟨units, reads, assembles⟩ := readUnits?_quoted name.toList (':' :: value?)
  have spelled :
      writeField layout level (name, value) ++ rest =
        '"' :: (name.toList.flatMap escapeCharacter ++ '"' :: ':' :: value?) := by
    simp [writeField, quote, value?]
  have shorter :
      2 * (writeWith layout level value).length ≤ steps := by
    simp only [writeField, List.length_append, List.length_cons] at enough
    omega
  have readValue : readValue? steps value? = some (reread value, rest) := by
    rw [readValue?_append_blanks blank.afterColon]
    exact readsBack steps rest shorter closes
  have atColon : skipBlanks (':' :: value?) = ':' :: value? := skipBlanks_cons (by decide) value?
  rw [spelled, readFields?, skipBlanks_cons (by decide)]
  simp only [reads, assembles, atColon, readValue, String.ofList_toList]
  rfl

include blank in
/-- Fields whose values are read back are read back as the fields of an object. -/
theorem readFields?_writeFields
    {field : String × Json}
    {rest : List (String × Json)}
    (first : ReadsBack layout level field.2)
    (others : ∀ other ∈ rest, ReadsBack layout level other.2)
    {blanks : List Char}
    (areBlank : ∀ character ∈ blanks, isBlank character = true)
    (after : List Char)
    {steps : Nat}
    (enough :
      2 * ((writeField layout level field).length + (writeFields layout level rest).length) <
        steps) :
    readFields? steps
        (writeField layout level field
          ++ (writeFields layout level rest ++ (blanks ++ '\x7d' :: after))) =
      some ((field.1, reread field.2) :: rereadFields rest, after) := by
  obtain ⟨steps, rfl⟩ : ∃ fewer, steps = fewer + 1 := Nat.exists_eq_add_one.mpr (by omega)
  induction rest generalizing field steps with
  | nil =>
      have closes : Closes (blanks ++ '\x7d' :: after) :=
        closes_append areBlank (closes_cons (by simp) after)
      have written : writeFields layout level [] = [] := rfl
      simp only [written, List.length_nil] at enough
      simp only [written, List.nil_append,
        readFields?_writeField blank first (show _ ≤ steps by omega) closes, afterField?,
        skipBlanks_append areBlank, skipBlanks_cons (show isBlank '\x7d' = false by decide),
        rereadFields]
  | cons next rest inductionHypothesis =>
      have closes : ∀ text, Closes (',' :: text) := closes_cons (by simp)
      simp only [writeFields_cons, List.length_cons, List.length_append] at enough
      simp only [writeFields_cons, List.cons_append, List.append_assoc,
        readFields?_writeField blank first (show _ ≤ steps by omega) (closes _), afterField?,
        skipBlanks_cons (show isBlank ',' = false by decide),
        readFields?_append_blanks (blank.lineBreak level)]
      obtain ⟨steps, rfl⟩ : ∃ fewer, steps = fewer + 1 := Nat.exists_eq_add_one.mpr (by omega)
      rw [inductionHypothesis (others next (List.mem_cons_self ..))
        (fun other member => others other (List.mem_cons_of_mem _ member)) steps (by omega)]
      rfl

include blank in
/-- An array is read back if its items are. -/
theorem readsBack_array
    {items : List Json}
    (plain : ∀ item ∈ items, Plain item)
    (readsBack : ∀ item ∈ items, ReadsBack layout (level + 1) item) :
    ReadsBack layout level (.array items) := by
  intro steps after enough _
  obtain ⟨steps, rfl⟩ := exists_step (.array plain) enough
  cases items with
  | nil => rfl
  | cons item rest =>
      obtain ⟨first, more, spelled, notBlank, notClosing⟩ :=
        writeWith_eq_cons layout (level + 1) (plain item (List.mem_cons_self ..))
      have enoughForItems :
          2 * ((writeWith layout (level + 1) item).length
            + (writeItems layout (level + 1) rest).length) < steps := by
        simp only [writeWith_array, List.length_cons, List.length_append] at enough
        omega
      have read :=
        readItems?_writeItems blank (readsBack item (List.mem_cons_self ..))
          (fun other member => readsBack other (List.mem_cons_of_mem _ member))
          (blank.lineBreak level) after enoughForItems
      simp only [writeWith_array, List.cons_append, List.append_assoc, List.nil_append]
      rw [spelled, List.cons_append] at read ⊢
      rw [readValue?_bracket (blank.lineBreak (level + 1)) notBlank notClosing, read]
      rfl

include blank in
/-- An object is read back if its values are. -/
theorem readsBack_object
    {fields : List (String × Json)}
    (plain : ∀ field ∈ fields, Plain field.2)
    (readsBack : ∀ field ∈ fields, ReadsBack layout (level + 1) field.2) :
    ReadsBack layout level (.object fields) := by
  intro steps after enough _
  obtain ⟨steps, rfl⟩ := exists_step (.object plain) enough
  cases fields with
  | nil => rfl
  | cons field rest =>
      have enoughForFields :
          2 * ((writeField layout (level + 1) field).length
            + (writeFields layout (level + 1) rest).length) < steps := by
        simp only [writeWith_object, List.length_cons, List.length_append] at enough
        omega
      have read :=
        readFields?_writeFields blank (readsBack field (List.mem_cons_self ..))
          (fun other member => readsBack other (List.mem_cons_of_mem _ member))
          (blank.lineBreak level) after enoughForFields
      simp only [writeWith_object, List.cons_append, List.append_assoc, List.nil_append]
      obtain ⟨more, spelled⟩ : ∃ more, writeField layout (level + 1) field = '"' :: more :=
        ⟨_, by rw [writeField, quote]; rfl⟩
      rw [spelled, List.cons_append] at read ⊢
      rw [readValue?_brace (blank.lineBreak (level + 1)), read]
      rfl

end Nested

/-- A plain value is read back from its text. -/
theorem readsBack_of_plain
    {layout : Layout}
    (blank : layout.Blank)
    {value : Json}
    (plain : Plain value)
    (level : Nat) :
    ReadsBack layout level value := by
  induction plain generalizing level with
  | null =>
      intro steps rest enough _
      obtain ⟨steps, rfl⟩ := exists_step .null enough
      rfl
  | bool value =>
      intro steps rest enough _
      obtain ⟨steps, rfl⟩ := exists_step (.bool value) enough
      cases value <;> rfl
  | natural value =>
      intro steps rest enough closes
      obtain ⟨steps, rfl⟩ := exists_step (.natural value) enough
      obtain ⟨first, more, spelled, _⟩ := ofNat_eq_cons value
      have digit := isDigit_of_mem_ofNat (spelled ▸ List.mem_cons_self ..)
      have scanned := scan?_ofNat value closes
      have written : writeWith layout level (.number (.natural value)) = first :: more := spelled
      rw [spelled, List.cons_append] at scanned
      rw [written, List.cons_append, readValue?_of_digit digit, scanned]
      rfl
  | string text =>
      intro steps rest enough _
      obtain ⟨steps, rfl⟩ := exists_step (.string text) enough
      exact readValue?_quote steps text rest
  | array plainItems inductionHypothesis =>
      exact readsBack_array blank plainItems fun item member =>
        inductionHypothesis item member (level + 1)
  | object plainFields inductionHypothesis =>
      exact readsBack_object blank plainFields fun field member =>
        inductionHypothesis field member (level + 1)

/-- The text of a plain value, in any layout, is read back as that value. -/
theorem parse?_writeWith
    {layout : Layout}
    (blank : layout.Blank)
    {value : Json}
    (plain : Plain value)
    (level : Nat) :
    parse? (writeWith layout level value) = some (reread value) := by
  have read :=
    readsBack_of_plain blank plain level (2 * (writeWith layout level value).length + 2) []
      (by omega) (by simp [Closes])
  rw [List.append_nil] at read
  simp [parse?, read, skipBlanks]

theorem parse?_compact
    {value : Json}
    (plain : Plain value) :
    parse? value.compact.toList = some (reread value) := by
  rw [compact, String.toList_ofList]
  exact parse?_writeWith Layout.blank_compact plain 0

theorem parse?_pretty
    {value : Json}
    (plain : Plain value) :
    parse? value.pretty.toList = some (reread value) := by
  rw [pretty, String.toList_ofList]
  exact parse?_writeWith Layout.blank_indented plain 0

end BindingStubs.Json
