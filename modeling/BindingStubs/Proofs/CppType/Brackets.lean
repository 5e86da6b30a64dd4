import BindingStubs.Proofs.CppType.Declarators

namespace BindingStubs.Spelling

/-!
# Brackets and commas

The bracket that closes an argument list and the commas between its arguments are found by
counting.  In a text whose brackets match, each count returns to where it started, so that
what lies inside nested brackets is passed over.
-/

/-- The characters that are counted or split at. -/
def structuralCharacters : List Char :=
  ['<', '>', '(', ')', '[', ']', ',']

/--
A text whose angle brackets and parentheses match and that has no others.  Commas are allowed
inside brackets, and outside of them only where the flag says so.
-/
inductive Balanced : Bool → List Char → Prop where
  | nil
      {commas : Bool} :
      Balanced commas []
  | character
      {commas : Bool}
      {character : Char}
      {rest : List Char} :
      character ∉ structuralCharacters →
      Balanced commas rest →
      Balanced commas (character :: rest)
  | comma
      {rest : List Char} :
      Balanced true rest →
      Balanced true (',' :: rest)
  | nest
      {commas : Bool}
      {inside rest : List Char} :
      Balanced true inside →
      Balanced commas rest →
      Balanced commas ('<' :: inside ++ '>' :: rest)
  | parenthesize
      {commas : Bool}
      {inside rest : List Char} :
      Balanced true inside →
      Balanced commas rest →
      Balanced commas ('(' :: inside ++ ')' :: rest)

/-- The brackets that are counted, each with the one that closes it. -/
def bracketPairs : List (Char × Char) :=
  [('<', '>'), ('(', ')'), ('[', ']')]

/--
A text whose brackets of all kinds are properly nested.  Commas are allowed inside brackets, and
outside of them only where the flag says so.
-/
inductive Nested : Bool → List Char → Prop where
  | nil
      {commas : Bool} :
      Nested commas []
  | character
      {commas : Bool}
      {character : Char}
      {rest : List Char} :
      character ∉ structuralCharacters →
      Nested commas rest →
      Nested commas (character :: rest)
  | comma
      {rest : List Char} :
      Nested true rest →
      Nested true (',' :: rest)
  | enclose
      {commas : Bool}
      {opening closing : Char}
      {inside rest : List Char} :
      (opening, closing) ∈ bracketPairs →
      Nested true inside →
      Nested commas rest →
      Nested commas (opening :: inside ++ closing :: rest)

section Balance

variable
    {commas : Bool}
    {text rest : List Char}

theorem Balanced.append
    (balanced : Balanced commas text)
    (balancedRest : Balanced commas rest) :
    Balanced commas (text ++ rest) := by
  induction balanced with
  | nil => exact balancedRest
  | character unstructured _ inductionHypothesis =>
      exact .character unstructured (inductionHypothesis balancedRest)
  | comma _ inductionHypothesis => exact .comma (inductionHypothesis balancedRest)
  | nest inside _ _ inductionHypothesis =>
      rw [List.append_assoc, List.cons_append]
      exact .nest inside (inductionHypothesis balancedRest)
  | parenthesize inside _ _ inductionHypothesis =>
      rw [List.append_assoc, List.cons_append]
      exact .parenthesize inside (inductionHypothesis balancedRest)

theorem balanced_of_unstructured
    (unstructured : ∀ character ∈ text, character ∉ structuralCharacters) :
    Balanced commas text := by
  induction text with
  | nil => exact .nil
  | cons character rest inductionHypothesis =>
      exact .character (unstructured character (by simp))
        (inductionHypothesis fun other member => unstructured other (by simp [member]))

/-- A text without commas outside its brackets may stand where commas are allowed. -/
theorem Balanced.allowCommas
    (balanced : Balanced commas text) :
    Balanced true text := by
  induction balanced with
  | nil => exact .nil
  | character unstructured _ inductionHypothesis =>
      exact .character unstructured inductionHypothesis
  | comma _ inductionHypothesis => exact .comma inductionHypothesis
  | nest inside _ _ inductionHypothesis => exact .nest inside inductionHypothesis
  | parenthesize inside _ _ inductionHypothesis => exact .parenthesize inside inductionHypothesis

/-- The search for the closing bracket passes over a text whose brackets match, whether it counts
angle brackets there or not. -/
theorem Balanced.splitAtClose_append
    (balanced : Balanced commas text)
    {angle : Nat}
    (opened : 1 ≤ angle)
    (parenthesis : Nat)
    (rest : List Char) :
    splitAtClose angle parenthesis (text ++ rest) =
      (splitAtClose angle parenthesis rest).map fun parts => (text ++ parts.1, parts.2) := by
  induction balanced generalizing angle parenthesis rest with
  | nil => simp
  | character unstructured _ inductionHypothesis =>
      simp only [structuralCharacters, List.mem_cons, not_or] at unstructured
      simp [splitAtClose, unstructured, inductionHypothesis opened, Function.comp_def]
  | comma _ inductionHypothesis =>
      simp [splitAtClose, inductionHypothesis opened, Function.comp_def]
  | nest _ _ insideHypothesis restHypothesis =>
      have deeper : ¬ angle + 1 ≤ 1 := by omega
      cases parenthesis with
      | zero =>
          simp [splitAtClose, insideHypothesis (Nat.le_add_left 1 angle), deeper,
            restHypothesis opened, Function.comp_def]
      | succ parenthesis =>
          simp [splitAtClose, insideHypothesis opened, restHypothesis opened, Function.comp_def]
  | parenthesize _ _ insideHypothesis restHypothesis =>
      simp [splitAtClose, insideHypothesis opened, restHypothesis opened, Function.comp_def]

theorem Balanced.splitAtClose_close
    (balanced : Balanced commas text) :
    splitAtClose 1 0 (text ++ ['>']) = some (text, []) := by
  rw [balanced.splitAtClose_append (Nat.le_refl 1) 0]
  simp [splitAtClose]

theorem foldr_extendFirst
    (text piece : List Char)
    (pieces : List (List Char)) :
    text.foldr extendFirst (piece :: pieces) = (text ++ piece) :: pieces := by
  induction text with
  | nil => rfl
  | cons character rest inductionHypothesis =>
      rw [List.foldr_cons, inductionHypothesis, extendFirst, List.cons_append]

theorem Balanced.nested
    (balanced : Balanced commas text) :
    Nested commas text := by
  induction balanced with
  | nil => exact .nil
  | character unstructured _ inductionHypothesis =>
      exact .character unstructured inductionHypothesis
  | comma _ inductionHypothesis => exact .comma inductionHypothesis
  | nest _ _ inside rest => exact .enclose (by decide) inside rest
  | parenthesize _ _ inside rest => exact .enclose (by decide) inside rest

theorem Nested.append
    (nested : Nested commas text)
    (nestedRest : Nested commas rest) :
    Nested commas (text ++ rest) := by
  induction nested with
  | nil => exact nestedRest
  | character unstructured _ inductionHypothesis =>
      exact .character unstructured (inductionHypothesis nestedRest)
  | comma _ inductionHypothesis => exact .comma (inductionHypothesis nestedRest)
  | enclose pair inside _ _ inductionHypothesis =>
      rw [List.append_assoc, List.cons_append]
      exact .enclose pair inside (inductionHypothesis nestedRest)

theorem Nested.allowCommas
    (nested : Nested commas text) :
    Nested true text := by
  induction nested with
  | nil => exact .nil
  | character unstructured _ inductionHypothesis =>
      exact .character unstructured inductionHypothesis
  | comma _ inductionHypothesis => exact .comma inductionHypothesis
  | enclose pair inside _ _ inductionHypothesis => exact .enclose pair inside inductionHypothesis

/-- The search for commas passes over a text whose brackets are nested. -/
theorem Nested.splitCommas_append
    (nested : Nested commas text)
    {depth : Int}
    (opened : 0 ≤ depth)
    (enclosed : commas = true → 0 < depth)
    (rest : List Char) :
    splitCommas depth (text ++ rest) = text.foldr extendFirst (splitCommas depth rest) := by
  induction nested generalizing depth rest with
  | nil => rfl
  | character unstructured _ inductionHypothesis =>
      simp only [structuralCharacters, List.mem_cons, not_or] at unstructured
      simp [splitCommas, unstructured, inductionHypothesis opened enclosed]
  | comma _ inductionHypothesis =>
      have inside : depth ≠ 0 := by
        have := enclosed rfl
        omega
      simp [splitCommas, inside, inductionHypothesis opened enclosed]
  | enclose pair _ _ insideHypothesis restHypothesis =>
      have deeper : 0 < depth + 1 := by omega
      simp only [bracketPairs, List.mem_cons, Prod.mk.injEq, List.not_mem_nil, or_false] at pair
      obtain ⟨rfl, rfl⟩ | ⟨rfl, rfl⟩ | ⟨rfl, rfl⟩ := pair <;>
        simp [splitCommas, insideHypothesis (Int.le_of_lt deeper) fun _ => deeper,
          restHypothesis opened enclosed]

/-- A text without commas outside its brackets is one piece. -/
theorem Nested.splitCommas_eq
    (nested : Nested false text) :
    splitCommas 0 text = [text] := by
  have passed := nested.splitCommas_append (Int.le_refl 0) (by simp) []
  rw [splitCommas, foldr_extendFirst, List.append_nil] at passed
  exact passed

/-- A comma behind a text without commas outside its brackets ends the first piece. -/
theorem Nested.splitCommas_comma
    (nested : Nested false text)
    (rest : List Char) :
    splitCommas 0 (text ++ ',' :: rest) = text :: splitCommas 0 rest := by
  have atComma : splitCommas 0 (',' :: rest) = [] :: splitCommas 0 rest := by
    simp [splitCommas]
  rw [nested.splitCommas_append (Int.le_refl 0) (by simp), atComma, foldr_extendFirst,
    List.append_nil]

theorem Balanced.splitCommas_eq
    (balanced : Balanced false text) :
    splitCommas 0 text = [text] :=
  balanced.nested.splitCommas_eq

theorem Balanced.splitCommas_comma
    (balanced : Balanced false text)
    (rest : List Char) :
    splitCommas 0 (text ++ ',' :: rest) = text :: splitCommas 0 rest :=
  balanced.nested.splitCommas_comma rest

end Balance

section Templates

variable
    {name : List Char}

/-- Neither words nor blanks have brackets or commas. -/
theorem not_structural_of_word_or_white
    {character : Char}
    (plain :
      isWordCharacter character = true ∨
        isSeparator character = true ∨ Text.isWhite character = true) :
    character ∉ structuralCharacters := by
  have facts :
      (structuralCharacters.all fun character =>
        !isWordCharacter character && !isSeparator character && !Text.isWhite character) =
          true := by
    decide +kernel
  intro member
  have fact := List.all_eq_true.mp facts character member
  simp only [Bool.and_eq_true, Bool.not_eq_true'] at fact
  simp [fact] at plain

theorem IsName.unstructured
    (isName : IsName name)
    {character : Char}
    (member : character ∈ name) :
    character ∉ structuralCharacters := by
  apply not_structural_of_word_or_white
  rcases isName.characters character member with word | separator
  · exact .inl word
  · exact .inr (.inl separator)

theorem Blank.unstructured
    {text : List Char}
    (blank : Blank text)
    {character : Char}
    (member : character ∈ text) :
    character ∉ structuralCharacters :=
  not_structural_of_word_or_white (.inr (.inr (blank character member)))

/-- Without an opening bracket there is no argument list. -/
theorem splitTemplate?_of_not_mem
    {base : List Char}
    (missing : '<' ∉ base) :
    splitTemplate? base = none := by
  have unopened : base.dropWhile (· != '<') = [] := by
    rw [List.dropWhile_eq_nil_iff]
    intro character member
    simpa using ne_of_mem_of_not_mem member missing
  rw [splitTemplate?, unopened]

/-- A text is split at its first opening bracket and at the bracket that closes that one. -/
theorem splitTemplate?_append
    {before : List Char}
    (missing : '<' ∉ before)
    (after : List Char) :
    splitTemplate? (before ++ '<' :: after) =
      if before = [] then none
      else
        (splitAtClose 1 0 after).bind fun parts =>
          if Text.isBlank parts.2 then some (Text.trimEnd before, parts.1) else none := by
  have unopened : ∀ character ∈ before, (character != '<') = true := by
    intro character member
    simpa using ne_of_mem_of_not_mem member missing
  have taken : (before ++ '<' :: after).takeWhile (· != '<') = before := by
    rw [List.takeWhile_append_of_pos unopened]
    simp
  have behind : (before ++ '<' :: after).dropWhile (· != '<') = '<' :: after := by
    rw [List.dropWhile_append_of_pos unopened]
    simp
  rw [splitTemplate?, taken, behind]
  simp only [List.isEmpty_iff]
  split
  · rfl
  · cases splitAtClose 1 0 after <;> rfl

theorem IsName.splitTemplate?_eq_none
    (isName : IsName name) :
    splitTemplate? name = none :=
  splitTemplate?_of_not_mem fun member =>
    isName.unstructured member (by simp [structuralCharacters])

/-- A name with an argument list is split at the outermost brackets. -/
theorem IsName.splitTemplate?_eq_some
    (isName : IsName name)
    {gap inside : List Char}
    (blank : Blank gap)
    (balanced : Balanced true inside) :
    splitTemplate? (name ++ gap ++ '<' :: inside ++ ['>']) = some (name, inside) := by
  have isBracket : '<' ∈ structuralCharacters := by simp [structuralCharacters]
  have missing : '<' ∉ name ++ gap := by
    rw [List.mem_append, not_or]
    exact ⟨fun inName => isName.unstructured inName isBracket,
      fun inGap => blank.unstructured inGap isBracket⟩
  have nonempty : name ++ gap ≠ [] := by
    obtain ⟨first, rest, rfl, -⟩ := isName.exists_first
    simp
  have trimmed : Text.trimEnd (name ++ gap) = name := by
    rw [Text.trimEnd_append_of_blank name blank]
    obtain ⟨front, last, rfl, word⟩ := isName.exists_last
    exact Text.trimEnd_concat_of_not_white front (isWhite_eq_false_of_word word)
  rw [List.append_assoc, List.cons_append, splitTemplate?_append missing, if_neg nonempty,
    balanced.splitAtClose_close, trimmed]
  rfl

end Templates

end BindingStubs.Spelling
