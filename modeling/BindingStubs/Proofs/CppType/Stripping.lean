import BindingStubs.Proofs.CppType.Spellings
import BindingStubs.Proofs.Text.Trimming

namespace BindingStubs.Spelling

/-!
# Stripping decorations

Reading a type strips keywords from the front, and references, qualifiers and pointer marks
from the end, in rounds that repeat until nothing changes.  Every step of a round undoes
decorations and nothing else, and a round that changes nothing has reached the core.
-/

section Characters

theorem isWhite_eq_false_of_word
    {character : Char}
    (word : isWordCharacter character = true) :
    Text.isWhite character = false := by
  simp only [isWordCharacter, Bool.or_eq_true, beq_iff_eq] at word
  rcases word with alphanumeric | rfl
  · exact Text.isWhite_eq_false_of_isAlphanumeric alphanumeric
  · decide +kernel

theorem isWordCharacter_eq_false_of_white
    {character : Char}
    (white : Text.isWhite character = true) :
    isWordCharacter character = false := by
  rw [← Bool.not_eq_true]
  intro word
  rw [isWhite_eq_false_of_word word] at white
  exact absurd white (by simp)

theorem ne_of_word
    {character other : Char}
    (word : isWordCharacter character = true)
    (apart : isWordCharacter other = false) :
    character ≠ other := by
  rintro rfl
  rw [word] at apart
  exact absurd apart (by simp)

theorem isWordCharacter_ampersand : isWordCharacter '&' = false := by
  decide +kernel

theorem isWordCharacter_star : isWordCharacter '*' = false := by
  decide +kernel

/-- A qualifier is a reserved word that ends in a word character. -/
theorem qualifier_parts
    {qualifier : List Char}
    (member : qualifier ∈ trailingQualifiers) :
    qualifier ∈ reservedWords ∧
      (∀ character ∈ qualifier, isWordCharacter character = true) ∧
      ∃ front last, qualifier = front ++ [last] := by
  have facts :
      (trailingQualifiers.all fun qualifier =>
        reservedWords.contains qualifier && qualifier.all isWordCharacter &&
          !qualifier.isEmpty) = true := by
    decide +kernel
  simp only [List.all_eq_true, Bool.and_eq_true, List.contains_iff_mem, Bool.not_eq_true',
    List.isEmpty_eq_false_iff] at facts
  obtain ⟨⟨reserved, word⟩, nonempty⟩ := facts qualifier member
  exact ⟨reserved, word, _, _, (List.dropLast_append_getLast nonempty).symm⟩

/-- A keyword is a reserved word and a space. -/
theorem keyword_parts
    {keyword : List Char}
    (member : keyword ∈ leadingKeywords) :
    ∃ word ∈ reservedWords,
      keyword = word ++ [' '] ∧
        word ≠ [] ∧
        ∀ character ∈ word, isWordCharacter character = true := by
  have facts :
      (leadingKeywords.all fun keyword =>
        reservedWords.contains keyword.dropLast && keyword == keyword.dropLast ++ [' '] &&
          !keyword.dropLast.isEmpty && keyword.dropLast.all isWordCharacter) = true := by
    decide +kernel
  simp only [List.all_eq_true, Bool.and_eq_true, List.contains_iff_mem, beq_iff_eq,
    Bool.not_eq_true', List.isEmpty_eq_false_iff] at facts
  obtain ⟨⟨⟨reserved, spaced⟩, nonempty⟩, word⟩ := facts keyword member
  exact ⟨_, reserved, spaced, nonempty, word⟩

/-- The word at the end of a text is determined by the character before it. -/
theorem word_suffix_unique
    {front front' word word' : List Char}
    {last last' : Char}
    (apart : isWordCharacter last = false)
    (apart' : isWordCharacter last' = false)
    (isWord : ∀ character ∈ word, isWordCharacter character = true)
    (isWord' : ∀ character ∈ word', isWordCharacter character = true)
    (same : front ++ [last] ++ word = front' ++ [last'] ++ word') :
    front ++ [last] = front' ++ [last'] ∧ word = word' := by
  have ending :
      ∀ (front : List Char) {word : List Char} {last : Char},
        isWordCharacter last = false →
        (∀ character ∈ word, isWordCharacter character = true) →
        (front ++ [last] ++ word).rtakeWhile isWordCharacter = word := by
    intro front word last apart isWord
    induction word using List.reverseRecOn with
    | nil =>
        rw [List.append_nil, List.rtakeWhile_concat_neg]
        simp [apart]
    | append_singleton word character inductionHypothesis =>
        rw [← List.append_assoc, List.rtakeWhile_concat_pos _ _ _ (isWord character (by simp)),
          inductionHypothesis fun other member => isWord other (by simp [member])]
  have sameWord : word = word' := by
    have ends := ending front apart isWord
    rw [same, ending front' apart' isWord'] at ends
    exact ends.symm
  subst sameWord
  exact ⟨List.append_cancel_right same, rfl⟩

end Characters

section Shortening

/-- A step that shortens a text or leaves it alone. -/
def Shortens
    (step : List Char → List Char) :
    Prop :=
  ∀ text, step text = text ∨ (step text).length < text.length

/-- A step that does not shorten a text leaves it alone. -/
theorem Shortens.fixed
    {step : List Char → List Char}
    (shortens : Shortens step)
    {text : List Char}
    (kept : text.length ≤ (step text).length) :
    step text = text := by
  rcases shortens text with same | shorter
  · exact same
  · omega

theorem shortens_of_sublist
    {step : List Char → List Char}
    (sublist : ∀ text, (step text).Sublist text) :
    Shortens step := by
  intro text
  rcases Nat.lt_or_ge (step text).length text.length with shorter | kept
  · exact .inr shorter
  · exact .inl ((sublist text).eq_of_length_le kept)

theorem shortens_of_prefix
    {step : List Char → List Char}
    (isPrefix : ∀ text, step text <+: text) :
    Shortens step :=
  shortens_of_sublist fun text => (isPrefix text).sublist

theorem shortens_of_suffix
    {step : List Char → List Char}
    (isSuffix : ∀ text, step text <:+ text) :
    Shortens step :=
  shortens_of_sublist fun text => (isSuffix text).sublist

theorem Shortens.comp
    {first second : List Char → List Char}
    (firstShortens : Shortens first)
    (secondShortens : Shortens second) :
    Shortens fun text => second (first text) := by
  simp only [Shortens] at firstShortens secondShortens ⊢
  intro text
  rcases firstShortens text with same | shorter
  · rw [same]
    exact secondShortens text
  · rcases secondShortens (first text) with sameSecond | shorterSecond
    · rw [sameSecond]
      exact .inr shorter
    · exact .inr (Nat.lt_trans shorterSecond shorter)

/-- Where two steps in a row leave a text alone, each of them does. -/
theorem Shortens.fixed_comp
    {first second : List Char → List Char}
    (firstShortens : Shortens first)
    (secondShortens : Shortens second)
    {text : List Char}
    (fixed : second (first text) = text) :
    first text = text ∧ second text = text := by
  have firstFixed : first text = text := by
    rcases secondShortens (first text) with same | shorter
    · rwa [fixed, eq_comm] at same
    · rw [fixed] at shorter
      exact firstShortens.fixed (Nat.le_of_lt shorter)
  rw [firstFixed] at fixed
  exact ⟨firstFixed, fixed⟩

theorem shortens_foldl
    {step : List Char → List Char → List Char}
    (shortens : ∀ part, Shortens fun text => step text part)
    (parts : List (List Char)) :
    Shortens fun text => parts.foldl step text := by
  induction parts with
  | nil => exact fun _ => .inl rfl
  | cons part parts inductionHypothesis =>
      simp only [List.foldl_cons]
      exact (shortens part).comp inductionHypothesis

/-- Where a sequence of steps leaves a text alone, each of them does. -/
theorem fixed_of_foldl
    {step : List Char → List Char → List Char}
    (shortens : ∀ part, Shortens fun text => step text part)
    {parts : List (List Char)}
    {text : List Char}
    (fixed : parts.foldl step text = text) :
    ∀ part ∈ parts, step text part = text := by
  induction parts with
  | nil => simp
  | cons part parts inductionHypothesis =>
      obtain ⟨firstFixed, restFixed⟩ :=
        (shortens part).fixed_comp (shortens_foldl shortens parts) fixed
      intro other member
      rcases List.mem_cons.mp member with rfl | inRest
      · exact firstFixed
      · exact inductionHypothesis restFixed other inRest

end Shortening

section Decorations

/--
A text whose end reading leaves alone: it ends in no blank, reference or pointer mark, and in
no qualifier that is set off.
-/
structure Solid
    (text : List Char) : Prop where
  ends :
    ∃ front last,
      text = front ++ [last] ∧ Text.isWhite last = false ∧ last ≠ '&' ∧ last ≠ '*'
  unqualified :
    ∀ front last qualifier,
      isWordCharacter last = false →
      qualifier ∈ trailingQualifiers →
      text ≠ front ++ [last] ++ qualifier

variable
    {core text : List Char}
    {marks : Nat}

theorem Solid.last
    {last : Char}
    (solid : Solid (text ++ [last])) :
    Text.isWhite last = false ∧ last ≠ '&' ∧ last ≠ '*' := by
  obtain ⟨front, final, ends, facts⟩ := solid.ends
  obtain ⟨-, sameLast⟩ := List.append_inj' ends rfl
  rwa [List.singleton_inj.mp sameLast]

/-- The possible last steps of decorating. -/
theorem Decorated.concat_cases
    {last : Char}
    (decorated : Decorated core marks (text ++ [last])) :
    text ++ [last] = core ∨
      Text.isWhite last = true ∧ Decorated core marks text ∨
      last = '&' ∧ Decorated core marks text ∨
      last = '*' ∧ (∃ fewer, marks = fewer + 1 ∧ Decorated core fewer text) ∨
      ∃ front gap qualifier,
        text ++ [last] = front ++ [gap] ++ qualifier ∧
          isWordCharacter gap = false ∧
          qualifier ∈ trailingQualifiers ∧
          Decorated core marks (front ++ [gap]) := by
  generalize spelled : text ++ [last] = whole at decorated
  cases decorated with
  | bare => exact .inl rfl
  | blank inner white =>
      obtain ⟨rfl, sameLast⟩ := List.append_inj' spelled rfl
      obtain rfl := List.singleton_inj.mp sameLast
      exact .inr (.inl ⟨white, inner⟩)
  | reference inner =>
      obtain ⟨rfl, sameLast⟩ := List.append_inj' spelled rfl
      exact .inr (.inr (.inl ⟨List.singleton_inj.mp sameLast, inner⟩))
  | pointer inner =>
      obtain ⟨rfl, sameLast⟩ := List.append_inj' spelled rfl
      exact .inr (.inr (.inr (.inl ⟨List.singleton_inj.mp sameLast, _, rfl, inner⟩)))
  | qualifier inner apart member =>
      exact .inr (.inr (.inr (.inr ⟨_, _, _, rfl, apart, member, inner⟩)))

theorem isWordCharacter_of_qualifier
    {before qualifier : List Char}
    {last : Char}
    (member : qualifier ∈ trailingQualifiers)
    (spelled : text ++ [last] = before ++ qualifier) :
    isWordCharacter last = true := by
  obtain ⟨-, word, front, final, rfl⟩ := qualifier_parts member
  rw [← List.append_assoc] at spelled
  obtain ⟨-, sameLast⟩ := List.append_inj' spelled rfl
  rw [List.singleton_inj.mp sameLast]
  exact word final (by simp)

/-- A blank behind a core is a decoration. -/
theorem Decorated.of_blank
    (solid : Solid core)
    {last : Char}
    (white : Text.isWhite last = true)
    (decorated : Decorated core marks (text ++ [last])) :
    Decorated core marks text := by
  rcases decorated.concat_cases with
    rfl | ⟨-, inner⟩ | ⟨-, inner⟩ | ⟨rfl, -⟩ | ⟨front, gap, qualifier, spelled, -, member, -⟩
  · rw [solid.last.1] at white
    exact absurd white (by simp)
  · exact inner
  · exact inner
  · exact absurd white (by decide +kernel)
  · have word := isWordCharacter_of_qualifier member spelled
    rw [isWordCharacter_eq_false_of_white white] at word
    exact absurd word (by simp)

theorem Decorated.of_reference
    (solid : Solid core)
    (decorated : Decorated core marks (text ++ ['&'])) :
    Decorated core marks text := by
  rcases decorated.concat_cases with
    rfl | ⟨-, inner⟩ | ⟨-, inner⟩ | ⟨isStar, -⟩ |
      ⟨front, gap, qualifier, spelled, -, member, -⟩
  · exact absurd rfl solid.last.2.1
  · exact inner
  · exact inner
  · exact absurd isStar (by decide)
  · have word := isWordCharacter_of_qualifier member spelled
    rw [isWordCharacter_ampersand] at word
    exact absurd word (by simp)

/-- A pointer mark behind a core is a decoration that counts. -/
theorem Decorated.of_pointer
    (solid : Solid core)
    (decorated : Decorated core marks (text ++ ['*'])) :
    ∃ fewer, marks = fewer + 1 ∧ Decorated core fewer text := by
  rcases decorated.concat_cases with
    rfl | ⟨white, -⟩ | ⟨isReference, -⟩ | ⟨-, inner⟩ |
      ⟨front, gap, qualifier, spelled, -, member, -⟩
  · exact absurd rfl solid.last.2.2
  · exact absurd white (by decide +kernel)
  · exact absurd isReference (by decide)
  · exact inner
  · have word := isWordCharacter_of_qualifier member spelled
    rw [isWordCharacter_star] at word
    exact absurd word (by simp)

/-- A qualifier that is set off behind a core is a decoration. -/
theorem Decorated.of_qualifier
    (solid : Solid core)
    {qualifier : List Char}
    {gap : Char}
    (apart : isWordCharacter gap = false)
    (member : qualifier ∈ trailingQualifiers)
    (decorated : Decorated core marks (text ++ [gap] ++ qualifier)) :
    Decorated core marks (text ++ [gap]) := by
  obtain ⟨-, word, front, last, rfl⟩ := qualifier_parts member
  have lastWord : isWordCharacter last = true := word last (by simp)
  rw [← List.append_assoc] at decorated
  rcases decorated.concat_cases with
    bare | ⟨white, -⟩ | ⟨isReference, -⟩ | ⟨isPointer, -⟩ |
      ⟨front', gap', qualifier', spelled, apart', member', inner⟩
  · rw [List.append_assoc] at bare
    exact absurd bare.symm (solid.unqualified _ _ _ apart member)
  · rw [isWordCharacter_eq_false_of_white white] at lastWord
    exact absurd lastWord (by simp)
  · exact absurd isReference (ne_of_word lastWord isWordCharacter_ampersand)
  · exact absurd isPointer (ne_of_word lastWord isWordCharacter_star)
  · rw [List.append_assoc] at spelled
    obtain ⟨-, word', -⟩ := qualifier_parts member'
    obtain ⟨same, -⟩ := word_suffix_unique apart apart' word word' spelled
    rwa [same]

theorem Decorated.trimEnd
    (solid : Solid core)
    (decorated : Decorated core marks text) :
    Decorated core marks (Text.trimEnd text) := by
  induction text using List.reverseRecOn with
  | nil => exact decorated
  | append_singleton text last inductionHypothesis =>
      cases white : Text.isWhite last with
      | false =>
          rwa [Text.trimEnd_concat_of_not_white _ white]
      | true =>
          rw [Text.trimEnd_concat_of_white _ white]
          exact inductionHypothesis (decorated.of_blank solid white)

/-- A solid text carries no decoration. -/
theorem Decorated.eq_core
    (decorated : Decorated core marks text)
    (solid : Solid text) :
    text = core ∧ marks = 0 := by
  cases decorated with
  | bare => exact ⟨rfl, rfl⟩
  | blank inner white =>
      rw [solid.last.1] at white
      exact absurd white (by simp)
  | reference inner =>
      exact absurd rfl solid.last.2.1
  | pointer inner =>
      exact absurd rfl solid.last.2.2
  | qualifier inner apart member =>
      exact absurd rfl (solid.unqualified _ _ _ apart member)

end Decorations

section TrailingMarks

variable
    {core text : List Char}
    {marks : Nat}

theorem dropReference_prefix
    (text : List Char) :
    dropReference text <+: text := by
  unfold dropReference
  split
  · rename_i rest found
    exact ⟨_, Text.append_eq_of_isSuffixOf? found⟩
  · cases found : (['&'] : List Char).isSuffixOf? text with
    | none => exact List.prefix_rfl
    | some rest => exact ⟨_, Text.append_eq_of_isSuffixOf? found⟩

theorem dropQualifier_prefix
    (text qualifier : List Char) :
    dropQualifier text qualifier <+: text := by
  unfold dropQualifier
  split
  · rename_i rest found
    split
    · exact (Text.trimEnd_prefix rest).trans ⟨_, Text.append_eq_of_isSuffixOf? found⟩
    · exact List.prefix_rfl
  · exact List.prefix_rfl

theorem dropPointerMark_prefix
    (text : List Char) :
    (dropPointerMark text).1 <+: text := by
  unfold dropPointerMark
  split
  · rename_i rest found
    exact ⟨_, Text.append_eq_of_isSuffixOf? found⟩
  · exact List.prefix_rfl

theorem endsAtWordBoundary_eq_true_iff
    {text : List Char} :
    endsAtWordBoundary text = true ↔
      ∃ front last, text = front ++ [last] ∧ isWordCharacter last = false := by
  cases text using List.reverseRecOn with
  | nil => simp [endsAtWordBoundary]
  | append_singleton front last =>
      simp only [endsAtWordBoundary, List.getLast?_concat, Bool.not_eq_true']
      constructor
      · intro apart
        exact ⟨front, last, rfl, apart⟩
      · rintro ⟨front', last', same, apart⟩
        obtain ⟨-, sameLast⟩ := List.append_inj' same rfl
        rw [List.singleton_inj.mp sameLast]
        exact apart

theorem Decorated.dropReference
    (solid : Solid core)
    (decorated : Decorated core marks text) :
    Decorated core marks (dropReference text) := by
  unfold Spelling.dropReference
  split
  · rename_i rest found
    have whole : rest ++ ['&'] ++ ['&'] = text := by
      rw [List.append_assoc]
      exact Text.append_eq_of_isSuffixOf? found
    rw [← whole] at decorated
    exact (decorated.of_reference solid).of_reference solid
  · cases found : (['&'] : List Char).isSuffixOf? text with
    | none => exact decorated
    | some rest =>
        rw [← Text.append_eq_of_isSuffixOf? found] at decorated
        exact decorated.of_reference solid

theorem Decorated.dropQualifier
    (solid : Solid core)
    {qualifier : List Char}
    (member : qualifier ∈ trailingQualifiers)
    (decorated : Decorated core marks text) :
    Decorated core marks (dropQualifier text qualifier) := by
  unfold Spelling.dropQualifier
  split
  · rename_i rest found
    split
    · rename_i boundary
      obtain ⟨front, gap, rfl, apart⟩ := endsAtWordBoundary_eq_true_iff.mp boundary
      rw [← Text.append_eq_of_isSuffixOf? found] at decorated
      exact (decorated.of_qualifier solid apart member).trimEnd solid
    · exact decorated
  · exact decorated

/-- Dropping references and qualifiers leaves a decorated core. -/
theorem Decorated.dropSuffixesOnce
    (solid : Solid core)
    (decorated : Decorated core marks text) :
    Decorated core marks (dropSuffixesOnce text) := by
  apply List.foldlRecOn
  · exact ((decorated.trimEnd solid).dropReference solid).trimEnd solid
  · intro text inner qualifier member
    exact inner.dropQualifier solid member

/-- Dropping a pointer mark leaves a decorated core with the marks that remain. -/
theorem Decorated.dropPointerMark
    (solid : Solid core)
    (decorated : Decorated core marks text) :
    ∃ fewer,
      marks = fewer + (dropPointerMark text).2 ∧
        Decorated core fewer (dropPointerMark text).1 := by
  unfold Spelling.dropPointerMark
  split
  · rename_i rest found
    rw [← Text.append_eq_of_isSuffixOf? found] at decorated
    exact decorated.of_pointer solid
  · exact ⟨marks, rfl, decorated⟩

theorem dropPointerMark_concat
    (text : List Char) :
    dropPointerMark (text ++ ['*']) = (text, 1) := by
  have found : ([CppType.pointerMark] : List Char).isSuffixOf? (text ++ ['*']) = some text :=
    List.isSuffixOf?_eq_some_iff_append_eq.mpr rfl
  rw [dropPointerMark, found]

theorem length_dropReference_concat_le
    (text : List Char) :
    (dropReference (text ++ ['&'])).length ≤ text.length := by
  unfold dropReference
  split
  · rename_i rest found
    have whole := congrArg List.length (Text.append_eq_of_isSuffixOf? found)
    simp only [List.length_append, List.length_cons, List.length_nil] at whole
    omega
  · have found : (['&'] : List Char).isSuffixOf? (text ++ ['&']) = some text :=
      List.isSuffixOf?_eq_some_iff_append_eq.mpr rfl
    rw [found, Option.getD_some]

theorem dropQualifier_append
    (text qualifier : List Char)
    {gap : Char}
    (apart : isWordCharacter gap = false) :
    dropQualifier (text ++ [gap] ++ qualifier) qualifier = Text.trimEnd (text ++ [gap]) := by
  have found : qualifier.isSuffixOf? (text ++ [gap] ++ qualifier) = some (text ++ [gap]) :=
    List.isSuffixOf?_eq_some_iff_append_eq.mpr rfl
  have boundary : endsAtWordBoundary (text ++ [gap]) = true :=
    endsAtWordBoundary_eq_true_iff.mpr ⟨text, gap, rfl, apart⟩
  simp only [dropQualifier, found, boundary, if_true]

/-- A text that every step of a round leaves alone is solid. -/
theorem solid_of_steps_fixed
    (nonempty : text ≠ [])
    (trimFixed : Text.trimEnd text = text)
    (referenceFixed : dropReference text = text)
    (qualifiersFixed : ∀ qualifier ∈ trailingQualifiers, dropQualifier text qualifier = text)
    (pointerFixed : (dropPointerMark text).1 = text) :
    Solid text := by
  obtain ⟨front, last, rfl⟩ : ∃ front last, text = front ++ [last] :=
    ⟨_, _, (List.dropLast_append_getLast nonempty).symm⟩
  refine ⟨⟨front, last, rfl, ?_, ?_, ?_⟩, ?_⟩
  · rw [← Bool.not_eq_true]
    intro white
    have shorter := Text.length_trimEnd_le front
    rw [← Text.trimEnd_concat_of_white front white, trimFixed, List.length_append] at shorter
    exact absurd shorter (Nat.not_succ_le_self _)
  · rintro rfl
    have shorter := length_dropReference_concat_le front
    rw [referenceFixed, List.length_append] at shorter
    exact absurd shorter (Nat.not_succ_le_self _)
  · rintro rfl
    rw [dropPointerMark_concat] at pointerFixed
    simp at pointerFixed
  · intro before gap qualifier apart member spelled
    have fixed := qualifiersFixed qualifier member
    have shorter := Text.length_trimEnd_le (before ++ [gap])
    rw [← dropQualifier_append before qualifier apart, ← spelled, fixed, spelled] at shorter
    obtain ⟨-, -, qualifierFront, qualifierLast, rfl⟩ := qualifier_parts member
    simp at shorter

/-- A round that does not shorten a text leaves it alone, and the text is solid. -/
theorem solid_of_round
    (nonempty : text ≠ [])
    (kept : text.length ≤ (dropPointerMark (dropSuffixesOnce text)).1.length) :
    (dropPointerMark (dropSuffixesOnce text)).1 = text ∧ Solid text := by
  have trims : Shortens Text.trimEnd := shortens_of_prefix Text.trimEnd_prefix
  have references : Shortens dropReference := shortens_of_prefix dropReference_prefix
  have qualifiers : ∀ qualifier, Shortens fun text => dropQualifier text qualifier :=
    fun qualifier => shortens_of_prefix fun text => dropQualifier_prefix text qualifier
  have pointers : Shortens fun text => (dropPointerMark text).1 :=
    shortens_of_prefix dropPointerMark_prefix
  have trimmed := (trims.comp references).comp trims
  have folded := shortens_foldl qualifiers trailingQualifiers
  have fixed := ((trimmed.comp folded).comp pointers).fixed kept
  -- The round is peeled from the outside, one step at a time.
  obtain ⟨suffixesFixed, pointerFixed⟩ := (trimmed.comp folded).fixed_comp pointers fixed
  obtain ⟨trimmedFixed, foldFixed⟩ := trimmed.fixed_comp folded suffixesFixed
  obtain ⟨innerFixed, -⟩ := (trims.comp references).fixed_comp trims trimmedFixed
  obtain ⟨trimFixed, referenceFixed⟩ := trims.fixed_comp references innerFixed
  exact ⟨fixed, solid_of_steps_fixed nonempty trimFixed referenceFixed
    (fixed_of_foldl qualifiers foldFixed) pointerFixed⟩

theorem Decorated.core_prefix
    (decorated : Decorated core marks text) :
    core <+: text := by
  induction decorated with
  | bare => exact List.prefix_rfl
  | blank _ _ inductionHypothesis => exact inductionHypothesis.trans (List.prefix_append _ _)
  | reference _ inductionHypothesis => exact inductionHypothesis.trans (List.prefix_append _ _)
  | pointer _ inductionHypothesis => exact inductionHypothesis.trans (List.prefix_append _ _)
  | qualifier _ _ _ inductionHypothesis =>
      exact inductionHypothesis.trans (List.prefix_append _ _)

/-- The rounds that drop marks end at the core and count every pointer mark. -/
theorem dropTrailingMarks_eq
    (solid : Solid core)
    (decorated : Decorated core marks text)
    (depth : Nat) :
    dropTrailingMarks text depth = (core, depth + marks) := by
  fun_induction dropTrailingMarks text depth generalizing marks
  case case1 text depth round shorter inductionHypothesis =>
      obtain ⟨fewer, counted, inner⟩ :=
        (decorated.dropSuffixesOnce solid).dropPointerMark solid
      rw [inductionHypothesis inner, counted, Nat.add_assoc, Nat.add_comm fewer]
  case case2 text depth round stays =>
      obtain ⟨fewer, counted, inner⟩ :=
        (decorated.dropSuffixesOnce solid).dropPointerMark solid
      have nonempty : text ≠ [] := by
        rintro rfl
        obtain ⟨front, last, ends, -⟩ := solid.ends
        have isEmpty := List.prefix_nil.mp decorated.core_prefix
        rw [isEmpty] at ends
        simp at ends
      obtain ⟨fixed, textSolid⟩ := solid_of_round nonempty (Nat.le_of_not_lt stays)
      rw [← fixed] at textSolid
      obtain ⟨isCore, rfl⟩ := inner.eq_core textSolid
      rw [isCore, counted, Nat.zero_add]

end TrailingMarks

end BindingStubs.Spelling
