import BindingStubs.Proofs.CppType.Stripping

namespace BindingStubs.Spelling

/-!
# Declarators

The rounds that drop keywords from the front mirror those at the end.  Since a name has no
reserved words, neither end of a core is mistaken for a keyword or a qualifier, and what is
left of a spelling is its core and the number of its pointer marks.
-/

section LeadingKeywords

/-- A text whose beginning reading leaves alone: it begins with no blank and no keyword. -/
structure Opens
    (body : List Char) : Prop where
  begins :
    ∃ first rest, body = first :: rest ∧ Text.isWhite first = false
  unkeyed :
    ∀ keyword ∈ leadingKeywords, ¬ keyword <+: body

variable
    {body lead keyword : List Char}

/-- Keywords before a text do not make it begin with a blank. -/
theorem Leading.begins
    (leading : Leading lead)
    (opens : Opens body) :
    ∃ first rest, lead ++ body = first :: rest ∧ Text.isWhite first = false := by
  cases leading with
  | none => exact opens.begins
  | keyword member blank inner =>
      obtain ⟨word, -, rfl, nonempty, isWord⟩ := keyword_parts member
      obtain ⟨first, rest, rfl⟩ := List.exists_cons_of_ne_nil nonempty
      exact ⟨first, _, rfl, isWhite_eq_false_of_word (isWord first (by simp))⟩

theorem Leading.trimStart
    (leading : Leading lead)
    (opens : Opens body)
    {blanks : List Char}
    (blank : Blank blanks) :
    Text.trimStart (blanks ++ lead ++ body) = lead ++ body := by
  obtain ⟨first, rest, spelled, notWhite⟩ := leading.begins opens
  rw [List.append_assoc, Text.trimStart_append_of_blank blank, spelled,
    Text.trimStart_cons_of_not_white notWhite]

/-- No keyword begins with another one. -/
theorem keyword_eq_of_prefix
    {keyword other text : List Char}
    (member : keyword ∈ leadingKeywords)
    (memberOther : other ∈ leadingKeywords)
    (begins : keyword <+: text)
    (beginsOther : other <+: text) :
    keyword = other := by
  have apart :
      ∀ keyword ∈ leadingKeywords, ∀ other ∈ leadingKeywords,
        keyword.isPrefixOf other = true → keyword = other := by
    decide +kernel
  rcases List.prefix_or_prefix_of_prefix begins beginsOther with shorter | longer
  · exact apart _ member _ memberOther (List.isPrefixOf_iff_prefix.mpr shorter)
  · exact (apart _ memberOther _ member (List.isPrefixOf_iff_prefix.mpr longer)).symm

theorem dropKeyword_append
    (keyword text : List Char) :
    dropKeyword (keyword ++ text) keyword = Text.trimStart text := by
  have found : keyword.isPrefixOf? (keyword ++ text) = some text :=
    List.isPrefixOf?_eq_some_iff_append_eq.mpr rfl
  rw [dropKeyword, found]

theorem Leading.dropKeyword
    (opens : Opens body)
    (leading : Leading lead)
    (member : keyword ∈ leadingKeywords) :
    ∃ fewer, Leading fewer ∧ dropKeyword (lead ++ body) keyword = fewer ++ body := by
  by_cases begins : keyword <+: lead ++ body
  · cases leading with
    | none => exact absurd begins (opens.unkeyed keyword member)
    | keyword memberFirst blank inner =>
        rename_i first blanks rest
        have isFirst : keyword = first :=
          keyword_eq_of_prefix member memberFirst begins
            (by simp only [List.append_assoc, List.prefix_append])
        refine ⟨rest, inner, ?_⟩
        rw [isFirst, List.append_assoc, List.append_assoc, dropKeyword_append,
          ← List.append_assoc, inner.trimStart opens blank]
  · refine ⟨lead, leading, ?_⟩
    unfold Spelling.dropKeyword
    split
    · rename_i rest found
      exact absurd ⟨rest, Text.append_eq_of_isPrefixOf? found⟩ begins
    · rfl

theorem shortens_dropKeyword
    (keyword : List Char) :
    Shortens fun text => dropKeyword text keyword := by
  apply shortens_of_suffix
  intro text
  unfold Spelling.dropKeyword
  split
  · rename_i rest found
    exact (List.dropWhile_suffix _).trans ⟨_, Text.append_eq_of_isPrefixOf? found⟩
  · exact List.suffix_rfl

/-- Dropping each keyword once leaves a text behind keywords. -/
theorem Leading.dropKeywordsOnce
    (opens : Opens body)
    (leading : Leading lead) :
    ∃ fewer, Leading fewer ∧ dropKeywordsOnce (lead ++ body) = fewer ++ body := by
  apply List.foldlRecOn
    (motive := fun text => ∃ fewer, Leading fewer ∧ text = fewer ++ body)
  · exact ⟨lead, leading, rfl⟩
  · rintro _ ⟨fewer, inner, rfl⟩ keyword member
    exact inner.dropKeyword opens member

/-- Where dropping each keyword once changes nothing, there is no keyword. -/
theorem Leading.eq_nil_of_fixed
    (leading : Leading lead)
    (fixed : Spelling.dropKeywordsOnce (lead ++ body) = lead ++ body) :
    lead = [] := by
  cases leading with
  | none => rfl
  | keyword member blank inner =>
      rename_i keyword blanks rest
      have kept := fixed_of_foldl shortens_dropKeyword fixed keyword member
      rw [List.append_assoc, List.append_assoc, dropKeyword_append] at kept
      have shorter := Text.length_trimStart_le (blanks ++ (rest ++ body))
      rw [kept, List.length_append] at shorter
      obtain ⟨word, -, rfl, -, -⟩ := keyword_parts member
      simp only [List.length_append, List.length_singleton] at shorter
      omega

/-- The rounds that drop keywords end at the text behind them. -/
theorem dropLeadingKeywords_append
    (opens : Opens body)
    (leading : Leading lead) :
    dropLeadingKeywords (lead ++ body) = body := by
  generalize spelled : lead ++ body = text
  fun_induction dropLeadingKeywords text generalizing lead
  case case1 text round shorter inductionHypothesis =>
    subst spelled
    obtain ⟨fewer, inner, dropped⟩ := leading.dropKeywordsOnce opens
    exact inductionHypothesis inner dropped.symm
  case case2 text round stays =>
    subst spelled
    have fixed :=
      (shortens_foldl shortens_dropKeyword leadingKeywords).fixed (Nat.le_of_not_lt stays)
    exact fixed.trans (by rw [leading.eq_nil_of_fixed fixed, List.nil_append])

end LeadingKeywords

section Cores

variable
    {core text name : List Char}
    {marks : Nat}

theorem isSeparator_eq_false_of_word
    {character : Char}
    (word : isWordCharacter character = true) :
    isSeparator character = false := by
  have space := ne_of_word word (show isWordCharacter ' ' = false by decide +kernel)
  have colon := ne_of_word word (show isWordCharacter ':' = false by decide +kernel)
  simp [isSeparator, space, colon]

/-- A word at the end of a name is no reserved word where no word character precedes it. -/
theorem IsName.suffix_not_reserved
    {front word : List Char}
    {gap : Char}
    (isName : IsName (front ++ [gap] ++ word))
    (apart : isWordCharacter gap = false)
    (isWord : ∀ character ∈ word, isWordCharacter character = true) :
    word ∉ reservedWords := by
  have separates : isSeparator gap = true := by
    rcases isName.characters gap (by simp) with ofWord | separator
    · rw [apart] at ofWord
      exact absurd ofWord (by simp)
    · exact separator
  apply isName.components
  rw [List.append_assoc, List.singleton_append, List.splitOnP_append_cons _ _ separates,
    List.splitOnP_eq_singleton fun character member =>
      isSeparator_eq_false_of_word (isWord character member)]
  simp

/-- The word at the beginning of a name is no reserved word. -/
theorem IsName.prefix_not_reserved
    {word rest : List Char}
    (isName : IsName (word ++ rest))
    (isWord : ∀ character ∈ word, isWordCharacter character = true)
    (separates : ∀ first ∈ rest.head?, isSeparator first = true) :
    word ∉ reservedWords := by
  have unseparated : word.splitOnP isSeparator = [word] :=
    List.splitOnP_eq_singleton fun character member =>
      isSeparator_eq_false_of_word (isWord character member)
  apply isName.components
  cases rest with
  | nil => simp [unseparated]
  | cons first rest =>
      rw [List.splitOnP_append_cons _ _ (separates first rfl), unseparated]
      simp

theorem IsName.exists_last
    (isName : IsName name) :
    ∃ front last, name = front ++ [last] ∧ isWordCharacter last = true := by
  have ends := isName.ends
  cases name using List.reverseRecOn with
  | nil => simp at ends
  | append_singleton front last => exact ⟨front, last, rfl, by simpa using ends⟩

theorem IsName.exists_first
    (isName : IsName name) :
    ∃ first rest, name = first :: rest ∧ isWordCharacter first = true := by
  have begins := isName.begins
  cases name with
  | nil => simp at begins
  | cons first rest => exact ⟨first, rest, rfl, by simpa using begins⟩

theorem IsName.solid
    (isName : IsName name) :
    Solid name := by
  constructor
  · obtain ⟨front, last, spelled, word⟩ := isName.exists_last
    exact ⟨front, last, spelled, isWhite_eq_false_of_word word,
      ne_of_word word isWordCharacter_ampersand, ne_of_word word isWordCharacter_star⟩
  · rintro front gap qualifier apart member rfl
    obtain ⟨reserved, isWord, -⟩ := qualifier_parts member
    exact isName.suffix_not_reserved apart isWord reserved

/-- Reading leaves the end of a text in brackets or parentheses alone. -/
theorem solid_of_close
    {last : Char}
    (closes : last ∈ ['>', ')'])
    (text : List Char) :
    Solid (text ++ [last]) := by
  have facts :
      (['>', ')'].all fun last =>
        !Text.isWhite last && last != '&' && last != '*' && !isWordCharacter last) = true := by
    decide +kernel
  have fact := List.all_eq_true.mp facts last closes
  simp only [Bool.and_eq_true, Bool.not_eq_true', bne_iff_ne] at fact
  obtain ⟨⟨⟨notWhite, noReference⟩, noPointer⟩, noWord⟩ := fact
  constructor
  · exact ⟨text, last, rfl, notWhite, noReference, noPointer⟩
  · intro front gap qualifier apart member spelled
    have word := isWordCharacter_of_qualifier member spelled
    exact absurd word (by simp [noWord])

/-- Reading leaves the beginning of a name alone when no word character follows the name. -/
theorem IsName.opens
    (isName : IsName name)
    {after : List Char}
    (apart : ∀ first ∈ after.head?, isWordCharacter first = false) :
    Opens (name ++ after) := by
  constructor
  · obtain ⟨first, rest, rfl, word⟩ := isName.exists_first
    exact ⟨first, _, rfl, isWhite_eq_false_of_word word⟩
  · rintro keyword member ⟨rest, spelled⟩
    obtain ⟨word, reserved, rfl, -, isWord⟩ := keyword_parts member
    rw [List.append_assoc] at spelled
    -- Either the name reaches beyond the word, or the word beyond the name.
    rcases List.append_eq_append_iff.mp spelled with
      ⟨further, rfl, behind⟩ | ⟨further, rfl, behind⟩
    · refine isName.prefix_not_reserved isWord ?_ reserved
      intro first isFirst
      cases further with
      | nil => simp at isFirst
      | cons other further =>
          simp only [List.cons_append, List.nil_append, List.cons.injEq] at behind
          simp only [List.head?_cons, Option.mem_some_iff] at isFirst
          rw [← isFirst, ← behind.1]
          rfl
    · cases further with
      | nil =>
          rw [List.append_nil] at isWord reserved
          rw [← List.append_nil name] at isName
          exact isName.prefix_not_reserved isWord (by simp) reserved
      | cons other further =>
          have ofWord := isWord other (by simp)
          rw [apart other (by simp [behind])] at ofWord
          exact absurd ofWord (by simp)

/-- No word character follows directly on a core that ends in one. -/
theorem Decorated.exists_after
    {front : List Char}
    {last : Char}
    (word : isWordCharacter last = true)
    (decorated : Decorated (front ++ [last]) marks text) :
    ∃ after,
      text = front ++ [last] ++ after ∧
        ∀ first ∈ after.head?, isWordCharacter first = false := by
  -- What is put at the end changes the beginning only where nothing stood before.
  have extend :
      ∀ {text added : List Char},
        (∃ after,
          text = front ++ [last] ++ after ∧
            ∀ first ∈ after.head?, isWordCharacter first = false) →
        (text = front ++ [last] → ∀ first ∈ added.head?, isWordCharacter first = false) →
        ∃ after,
          text ++ added = front ++ [last] ++ after ∧
            ∀ first ∈ after.head?, isWordCharacter first = false := by
    rintro text added ⟨after, rfl, apart⟩ addedApart
    refine ⟨after ++ added, List.append_assoc .., ?_⟩
    cases after with
    | nil => exact addedApart (List.append_nil _)
    | cons first after => exact apart
  induction decorated with
  | bare => exact ⟨[], (List.append_nil _).symm, by simp⟩
  | blank inner white inductionHypothesis =>
      apply extend inductionHypothesis
      simpa using fun _ => isWordCharacter_eq_false_of_white white
  | reference inner inductionHypothesis =>
      apply extend inductionHypothesis
      simpa using fun _ => isWordCharacter_ampersand
  | pointer inner inductionHypothesis =>
      apply extend inductionHypothesis
      simpa using fun _ => isWordCharacter_star
  | qualifier inner apart member inductionHypothesis =>
      apply extend inductionHypothesis
      intro bare
      obtain ⟨-, sameLast⟩ := List.append_inj' bare rfl
      rw [List.singleton_inj.mp sameLast, word] at apart
      exact absurd apart (by simp)

/-- A text that reading finds under any keywords and decorations. -/
structure IsCore
    (core : List Char) : Prop where
  solid :
    Solid core
  opens :
    ∀ {marks text}, Decorated core marks text → Opens text

theorem IsName.isCore
    (isName : IsName name) :
    IsCore name := by
  refine ⟨isName.solid, ?_⟩
  intro marks text decorated
  obtain ⟨front, last, rfl, word⟩ := isName.exists_last
  obtain ⟨after, rfl, apart⟩ := decorated.exists_after word
  exact isName.opens apart

/-- A name with an argument list is found under any keywords and decorations. -/
theorem IsName.isCore_bracketed
    (isName : IsName name)
    {gap : List Char}
    (blank : Blank gap)
    (inside : List Char) :
    IsCore (name ++ gap ++ '<' :: inside ++ ['>']) := by
  refine ⟨solid_of_close (by simp) _, ?_⟩
  intro marks text decorated
  obtain ⟨after, rfl⟩ := decorated.core_prefix
  simp only [List.append_assoc]
  apply isName.opens
  intro first isFirst
  cases gap with
  | nil =>
      simp only [List.nil_append, List.cons_append, List.head?_cons, Option.mem_some_iff]
        at isFirst
      rw [← isFirst]
      decide +kernel
  | cons other gap =>
      simp only [List.cons_append, List.head?_cons, Option.mem_some_iff] at isFirst
      rw [← isFirst]
      exact isWordCharacter_eq_false_of_white (blank other (by simp))

/-- Reading finds the core of a spelling and counts its pointer marks. -/
theorem dropDeclarator_eq
    {blanks lead : List Char}
    (isCore : IsCore core)
    (blank : Blank blanks)
    (leading : Leading lead)
    (decorated : Decorated core marks text) :
    dropDeclarator (blanks ++ lead ++ text) = (core, marks) := by
  have trimmedWhole : Text.trim (blanks ++ lead ++ text) = lead ++ Text.trimEnd text := by
    rw [Text.trim, leading.trimStart (isCore.opens decorated) blank]
    obtain ⟨first, rest, rfl, notWhite⟩ := (isCore.opens decorated).begins
    exact Text.trimEnd_append_of_not_white lead List.mem_cons_self notWhite
  have trimmed : Decorated core marks (Text.trimEnd text) := decorated.trimEnd isCore.solid
  have trimmedCore : Text.trim core = core := by
    obtain ⟨first, rest, begins, notWhite⟩ := (isCore.opens .bare).begins
    obtain ⟨front, last, ends, notWhiteLast, -⟩ := isCore.solid.ends
    rw [Text.trim, begins, Text.trimStart_cons_of_not_white notWhite, ← begins, ends,
      Text.trimEnd_concat_of_not_white front notWhiteLast]
  simp only [dropDeclarator, trimmedWhole,
    dropLeadingKeywords_append (isCore.opens trimmed) leading,
    dropTrailingMarks_eq isCore.solid trimmed, trimmedCore, Nat.zero_add]

end Cores

end BindingStubs.Spelling
