import BindingStubs.Proofs.CppType.Brackets
import BindingStubs.Proofs.CppType.Structure

namespace BindingStubs

/-!
# Reading back spellings

Reading inverts spelling: every text that spells a well-formed type is read as that type,
whatever keywords, blanks, references and qualifiers it is decorated with.
-/

open Spelling

section Balance

variable
    {core text : List Char}
    {marks : Nat}

theorem Spelling.Leading.balanced
    {lead : List Char}
    (leading : Leading lead) :
    Balanced false lead := by
  induction leading with
  | none => exact .nil
  | keyword member blank _ inductionHypothesis =>
      refine (Balanced.append ?_ ?_).append inductionHypothesis
      · obtain ⟨word, -, rfl, -, isWord⟩ := keyword_parts member
        refine Balanced.append ?_ ?_
        · exact balanced_of_unstructured fun character inWord =>
            not_structural_of_word_or_white (.inl (isWord character inWord))
        · exact .character (by decide) .nil
      · exact balanced_of_unstructured fun _ => blank.unstructured

theorem Spelling.Decorated.balanced
    (balanced : Balanced false core)
    (decorated : Decorated core marks text) :
    Balanced false text := by
  induction decorated with
  | bare => exact balanced
  | blank _ white inductionHypothesis =>
      refine inductionHypothesis.append (.character ?_ .nil)
      exact not_structural_of_word_or_white (.inr (.inr white))
  | reference _ inductionHypothesis =>
      exact inductionHypothesis.append (.character (by decide) .nil)
  | pointer _ inductionHypothesis =>
      exact inductionHypothesis.append (.character (by decide) .nil)
  | qualifier _ _ member inductionHypothesis =>
      obtain ⟨-, isWord, -⟩ := qualifier_parts member
      exact inductionHypothesis.append (balanced_of_unstructured fun character inWord =>
        not_structural_of_word_or_white (.inl (isWord character inWord)))

end Balance

namespace CppType

theorem wellFormed_plain_iff
    {name : String} :
    (CppType.plain name).WellFormed ↔ IsName (CppType.plain name).baseName.toList := by
  simp [WellFormed, baseNames]

/-- A type is well-formed when its own name is a name and its arguments are well-formed. -/
theorem wellFormed_applied_iff
    {name : String}
    {arguments : List CppType} :
    (CppType.applied name arguments).WellFormed ↔
      IsName (CppType.applied name arguments).baseName.toList ∧
        ∀ argument ∈ arguments, argument.WellFormed := by
  have inList :
      (∀ name ∈ baseNamesOfList arguments, IsName name.toList) ↔
        ∀ argument ∈ arguments, argument.WellFormed := by
    induction arguments with
    | nil => simp [baseNamesOfList]
    | cons first rest inductionHypothesis =>
        simp only [baseNamesOfList, List.forall_mem_append, inductionHypothesis,
          List.forall_mem_cons]
        rfl
  rw [← inList]
  simp only [WellFormed, baseNames, List.forall_mem_cons]

end CppType

section Readable

/-- A name that reading leaves as it is: there is nothing to strip from its ends, it is not split,
and its brackets match. -/
structure Spelling.IsWhole
    (name : List Char) : Prop where
  isCore : IsCore name
  unsplit : splitTemplate? name = none
  balanced : Balanced false name

theorem Spelling.IsName.isWhole
    {name : List Char}
    (isName : IsName name) :
    IsWhole name where
  isCore := isName.isCore
  unsplit := isName.splitTemplate?_eq_none
  balanced := balanced_of_unstructured fun _ => isName.unstructured

/-- A type that is read back from its spellings: argument lists follow names only, and reading
leaves what stands without an argument list as it is. -/
inductive CppType.Readable : CppType → Prop where
  | plain
      {name : String} :
      IsWhole (CppType.plain name).baseName.toList →
      Readable (.plain name)
  | applied
      {name : String}
      {arguments : List CppType} :
      IsName (CppType.applied name arguments).baseName.toList →
      (∀ argument ∈ arguments, Readable argument) →
      Readable (.applied name arguments)

theorem CppType.WellFormed.readable
    {type : CppType}
    (wellFormed : type.WellFormed) :
    type.Readable := by
  induction type using CppType.recurse with
  | plain name => exact .plain (wellFormed_plain_iff.mp wellFormed).isWhole
  | applied name arguments inductionHypothesis =>
      obtain ⟨isName, argumentsWellFormed⟩ := wellFormed_applied_iff.mp wellFormed
      exact .applied isName fun argument member =>
        inductionHypothesis argument member (argumentsWellFormed argument member)

end Readable

section Arguments

variable
    {arguments : List CppType}
    {inside : List Char}

/-- The commas between arguments are the only ones outside the arguments' own brackets. -/
theorem SpellsArguments.pieces
    (nonempty : arguments ≠ [])
    (spelled : SpellsArguments arguments inside)
    (balanced :
      ∀ argument ∈ arguments, ∀ text, Spells argument text → Balanced false text) :
    Balanced true inside ∧ List.Forall₂ Spells arguments (splitCommas 0 inside) := by
  induction arguments generalizing inside with
  | nil => exact absurd rfl nonempty
  | cons first rest inductionHypothesis =>
      cases spelled with
      | one spelledFirst =>
          have balancedFirst := balanced first (by simp) inside spelledFirst
          rw [balancedFirst.splitCommas_eq]
          exact ⟨balancedFirst.allowCommas, .cons spelledFirst .nil⟩
      | cons spelledFirst spelledRest =>
          rename_i next rest text others
          have balancedFirst := balanced first (by simp) text spelledFirst
          obtain ⟨balancedRest, pieces⟩ :=
            inductionHypothesis (by simp) spelledRest fun argument member =>
              balanced argument (by simp [member])
          rw [balancedFirst.splitCommas_comma]
          exact ⟨balancedFirst.allowCommas.append (.comma balancedRest),
            .cons spelledFirst pieces⟩

theorem SpellsArguments.blank
    (spelled : SpellsArguments [] inside) :
    Blank inside := by
  cases spelled with
  | nil blank => exact blank

theorem SpellsArguments.balanced
    (spelled : SpellsArguments arguments inside)
    (balanced :
      ∀ argument ∈ arguments, ∀ text, Spells argument text → Balanced false text) :
    Balanced true inside := by
  cases arguments with
  | nil => exact balanced_of_unstructured fun _ => spelled.blank.unstructured
  | cons first rest => exact (spelled.pieces (by simp) balanced).1

end Arguments

namespace CppType

/-- In a spelling of a readable type brackets match, and commas stand inside them. -/
theorem Readable.balanced_of_spells
    {type : CppType}
    (readable : type.Readable)
    (text : List Char)
    (spelled : Spells type text) :
    Balanced false text := by
  induction type using recurse generalizing text with
  | plain name =>
      cases readable with
      | plain isWhole =>
          cases spelled with
          | plain blank leading decorated =>
              refine (Balanced.append ?_ leading.balanced).append
                (decorated.balanced isWhole.balanced)
              exact balanced_of_unstructured fun _ => blank.unstructured
  | applied name arguments inductionHypothesis =>
      cases readable with
      | applied isName argumentsReadable =>
          cases spelled with
          | applied blank leading gapBlank spelledInside decorated =>
              have inside :=
                spelledInside.balanced fun argument member =>
                  inductionHypothesis argument member (argumentsReadable argument member)
              refine (Balanced.append ?_ leading.balanced).append (decorated.balanced ?_)
              · exact balanced_of_unstructured fun _ => blank.unstructured
              · rw [List.append_assoc]
                refine (Balanced.append ?_ ?_).append (.nest inside .nil)
                · exact balanced_of_unstructured fun _ => isName.unstructured
                · exact balanced_of_unstructured fun _ => gapBlank.unstructured

/-- Blanks around a spelling do not matter. -/
theorem parse_trim
    (text : List Char) :
    parse (Text.trim text) = parse text := by
  have same : dropDeclarator (Text.trim text) = dropDeclarator text := by
    simp only [dropDeclarator, Text.trim_trim]
  rw [parse_eq, parse_eq text, same]

/-- The pieces of an argument list are those between its commas, unless one is blank. -/
theorem splitTopLevel_of_nonblank
    {inside : List Char}
    (nonblank : ∀ piece ∈ splitCommas 0 inside, Text.trim piece ≠ []) :
    splitTopLevel inside = (splitCommas 0 inside).map Text.trim := by
  unfold splitTopLevel
  split
  · rename_i blank
    have member : [] ∈ (splitCommas 0 inside).map Text.trim := by simp [blank]
    obtain ⟨piece, inPieces, isEmpty⟩ := List.mem_map.mp member
    exact absurd isEmpty (nonblank piece inPieces)
  · rfl

/-- Pieces that spell arguments are read back when the arguments are. -/
theorem parse_pieces
    {arguments : List CppType}
    {pieces : List (List Char)}
    (spelled : List.Forall₂ Spells arguments pieces)
    (reads :
      ∀ argument ∈ arguments, ∀ text, Spells argument text →
        Text.trim text ≠ [] ∧ parse text = argument) :
    (∀ piece ∈ pieces, Text.trim piece ≠ []) ∧
      pieces.map (fun piece => parse (Text.trim piece)) = arguments := by
  induction spelled with
  | nil => simp
  | cons spelledFirst _ inductionHypothesis =>
      obtain ⟨nonblank, parsed⟩ := reads _ List.mem_cons_self _ spelledFirst
      obtain ⟨nonblankRest, parsedRest⟩ :=
        inductionHypothesis fun argument member => reads argument (by simp [member])
      rw [List.forall_mem_cons, List.map_cons, parse_trim, parsed, parsedRest]
      exact ⟨⟨nonblank, nonblankRest⟩, rfl⟩

/-- An argument list is read back when its arguments are. -/
theorem parse_arguments
    {arguments : List CppType}
    {inside : List Char}
    (spelled : SpellsArguments arguments inside)
    (balanced :
      ∀ argument ∈ arguments, ∀ text, Spells argument text → Balanced false text)
    (reads :
      ∀ argument ∈ arguments, ∀ text, Spells argument text →
        Text.trim text ≠ [] ∧ parse text = argument) :
    ((splitTopLevel inside).filter fun piece => !piece.isEmpty).map parse = arguments := by
  cases arguments with
  | nil =>
      have blank := spelled.blank
      have trimmed : Text.trim inside = [] := by
        rw [Text.trim, Text.trimStart, List.dropWhile_eq_nil_iff.mpr blank]
        rfl
      have pieces : splitCommas 0 inside = [inside] :=
        (balanced_of_unstructured fun _ => blank.unstructured).splitCommas_eq
      simp [splitTopLevel, pieces, trimmed]
  | cons first rest =>
      obtain ⟨-, pieces⟩ := spelled.pieces (by simp) balanced
      obtain ⟨nonblank, parsed⟩ := parse_pieces pieces reads
      have kept :
          ((splitCommas 0 inside).map Text.trim).filter (fun piece => !piece.isEmpty) =
            (splitCommas 0 inside).map Text.trim := by
        rw [List.filter_eq_self]
        intro piece member
        obtain ⟨whole, inPieces, rfl⟩ := List.mem_map.mp member
        simp [nonblank whole inPieces]
      rw [splitTopLevel_of_nonblank nonblank, kept, List.map_map]
      exact parsed

/-- Reading a spelling of a readable type gives the type. -/
theorem Readable.parse_of_spells
    {type : CppType}
    (readable : type.Readable)
    (text : List Char)
    (spelled : Spells type text) :
    Text.trim text ≠ [] ∧ parse text = type := by
  induction type using recurse generalizing text with
  | plain name =>
      cases readable with
      | plain isWhole =>
          cases spelled with
          | plain blank leading decorated =>
              constructor
              · obtain ⟨first, rest, rfl, notWhite⟩ := (isWhole.isCore.opens decorated).begins
                exact Text.trim_ne_nil (by simp) notWhite
              · rw [parse_eq, dropDeclarator_eq isWhole.isCore blank leading decorated]
                simp only [isWhole.unsplit, ← toList_name, CppType.name, String.ofList_toList]
  | applied name arguments inductionHypothesis =>
      cases readable with
      | applied isName argumentsReadable =>
          cases spelled with
          | applied blank leading gapBlank spelledInside decorated =>
              rename_i blanks lead gap inside text
              have isCore := isName.isCore_bracketed gapBlank inside
              have balanced :
                  ∀ argument ∈ arguments, ∀ text, Spells argument text → Balanced false text :=
                fun argument member => (argumentsReadable argument member).balanced_of_spells
              constructor
              · obtain ⟨first, rest, rfl, notWhite⟩ := (isCore.opens decorated).begins
                exact Text.trim_ne_nil (by simp) notWhite
              · rw [parse_eq, dropDeclarator_eq isCore blank leading decorated]
                simp only [isName.splitTemplate?_eq_some gapBlank
                  (spelledInside.balanced balanced), ← toList_name, CppType.name,
                  String.ofList_toList]
                rw [parse_arguments spelledInside balanced fun argument member =>
                  inductionHypothesis argument member (argumentsReadable argument member)]

theorem parse_of_spells
    {type : CppType}
    (wellFormed : type.WellFormed)
    (text : List Char)
    (spelled : Spells type text) :
    Text.trim text ≠ [] ∧ parse text = type :=
  wellFormed.readable.parse_of_spells text spelled

end CppType

section Spell

/-- A spelling may be moved to the right. -/
theorem Spells.behind
    {type : CppType}
    {before text : List Char}
    (blank : Blank before)
    (spelled : Spells type text) :
    Spells type (before ++ text) := by
  have widen :
      ∀ {blanks : List Char}, Blank blanks → Blank (before ++ blanks) :=
    fun blankInner => List.forall_mem_append.mpr ⟨blank, blankInner⟩
  cases spelled with
  | plain blankInner leading decorated =>
      rw [← List.append_assoc, ← List.append_assoc]
      exact .plain (widen blankInner) leading decorated
  | applied blankInner leading gapBlank spelledInside decorated =>
      rw [← List.append_assoc, ← List.append_assoc]
      exact .applied (widen blankInner) leading gapBlank spelledInside decorated

theorem SpellsArguments.behind
    {arguments : List CppType}
    {before inside : List Char}
    (blank : Blank before)
    (spelled : SpellsArguments arguments inside) :
    SpellsArguments arguments (before ++ inside) := by
  cases spelled with
  | nil blankInner => exact .nil (List.forall_mem_append.mpr ⟨blank, blankInner⟩)
  | one spelledArgument => exact .one (spelledArgument.behind blank)
  | cons spelledArgument spelledRest =>
      rw [← List.append_assoc]
      exact .cons (spelledArgument.behind blank) spelledRest

theorem Spelling.decorated_replicate
    (core : List Char)
    (marks : Nat) :
    Decorated core marks (core ++ List.replicate marks CppType.pointerMark) := by
  induction marks with
  | zero =>
      rw [List.replicate_zero, List.append_nil]
      exact .bare
  | succ marks inductionHypothesis =>
      rw [List.replicate_succ', ← List.append_assoc]
      exact .pointer inductionHypothesis

namespace CppType

theorem spells_spellArguments
    {arguments : List CppType}
    (spelled : ∀ argument ∈ arguments, Spells argument argument.spell) :
    SpellsArguments arguments (spellArguments arguments) := by
  induction arguments with
  | nil => exact .nil blank_nil
  | cons first rest inductionHypothesis =>
      have spelledRest :=
        inductionHypothesis fun argument member => spelled argument (by simp [member])
      cases rest with
      | nil => exact .one (spelled first (by simp))
      | cons next rest =>
          exact .cons (spelled first (by simp)) (spelledRest.behind blank_space)

/-- The text of a type spells it. -/
theorem spells_spell
    (type : CppType) :
    Spells type type.spell := by
  induction type using recurse with
  | plain name =>
      have decorated :=
        decorated_replicate (CppType.plain name).baseName.toList
          (CppType.plain name).pointerDepth
      simpa only [spell, List.nil_append] using Spells.plain blank_nil .none decorated
  | applied name arguments inductionHypothesis =>
      have inside := spells_spellArguments inductionHypothesis
      have decorated :=
        decorated_replicate
          ((CppType.applied name arguments).baseName.toList
            ++ [] ++ '<' :: spellArguments arguments ++ ['>'])
          (CppType.applied name arguments).pointerDepth
      simpa only [spell, List.nil_append, List.append_nil] using
        Spells.applied blank_nil .none blank_nil inside decorated

/--
Every spelling of a well-formed type is read as that type, and so is the text of the type.
-/
theorem reading_inverts_spelling
    (type : CppType)
    (wellFormed : type.WellFormed) :
    (∀ text, Spells type text → parse text = type) ∧ ofString type.text = type := by
  have reads : ∀ text, Spells type text → parse text = type :=
    fun text spelled => (parse_of_spells wellFormed text spelled).2
  refine ⟨reads, ?_⟩
  rw [ofString, CppType.text, String.toList_ofList]
  exact reads _ (spells_spell type)

/-- Keywords, qualifiers, references and an empty argument list are read at every level. -/
theorem reading_inverts_spelling_of_pairs :
    (CppType.applied "std::pair*" [.plain "unsigned int", .applied "Box*" []]).WellFormed ∧
      ofString "const struct std::pair < const unsigned int&, Box< > *const > const * &&" =
        .applied "std::pair*" [.plain "unsigned int", .applied "Box*" []] := by
  have wellFormed :
      (CppType.applied "std::pair*"
        [.plain "unsigned int", .applied "Box*" []]).WellFormed := by
    decide +kernel
  refine ⟨wellFormed, ?_⟩
  have white : Text.isWhite ' ' = true := by decide +kernel
  have apart : isWordCharacter ' ' = false := by decide +kernel
  have number : Spells (.plain "unsigned int") " const unsigned int&".toList := by
    have whole :
        " const unsigned int&".toList =
          [' '] ++ ("const ".toList ++ [] ++ [])
            ++ ((CppType.plain "unsigned int").baseName.toList ++ ['&']) := by
      decide +kernel
    rw [whole]
    exact .plain blank_space (.keyword (by decide +kernel) blank_nil .none) (.reference .bare)
  have box : Spells (.applied "Box*" []) " Box< > *const ".toList := by
    have depth : (CppType.applied "Box*" []).pointerDepth = 1 := by decide +kernel
    have whole :
        " Box< > *const ".toList =
          [' '] ++ []
            ++ ((CppType.applied "Box*" []).baseName.toList ++ [] ++ '<' :: [' '] ++ ['>']
              ++ [' '] ++ ['*'] ++ "const".toList ++ [' ']) := by
      decide +kernel
    rw [whole]
    refine .applied blank_space .none blank_nil (.nil blank_space) ?_
    rw [depth]
    exact .blank
      (.qualifier (.pointer (.blank .bare white)) isWordCharacter_star (by decide +kernel)) white
  have inside :
      SpellsArguments [.plain "unsigned int", .applied "Box*" []]
        (" const unsigned int&".toList ++ ',' :: " Box< > *const ".toList) :=
    .cons number (.one box)
  have whole :
      "const struct std::pair < const unsigned int&, Box< > *const > const * &&".toList =
        [] ++ ("const ".toList ++ [] ++ ("struct ".toList ++ [] ++ []))
          ++ ((CppType.applied "std::pair*"
                [.plain "unsigned int", .applied "Box*" []]).baseName.toList ++ [' ']
            ++ '<' :: (" const unsigned int&".toList ++ ',' :: " Box< > *const ".toList)
            ++ ['>'] ++ [' '] ++ "const".toList ++ [' '] ++ ['*'] ++ [' '] ++ ['&']
            ++ ['&']) := by
    decide +kernel
  have depth :
      (CppType.applied "std::pair*"
        [.plain "unsigned int", .applied "Box*" []]).pointerDepth = 1 := by
    decide +kernel
  rw [ofString, whole]
  apply (reading_inverts_spelling _ wellFormed).1
  refine .applied blank_nil
    (.keyword (by decide +kernel) blank_nil (.keyword (by decide +kernel) blank_nil .none))
    blank_space inside ?_
  rw [depth]
  exact .reference (.reference (.blank (.pointer (.blank
    (.qualifier (.blank .bare white) apart (by decide +kernel)) white)) white))

end CppType

end Spell

end BindingStubs
