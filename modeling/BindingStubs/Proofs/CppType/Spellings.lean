import BindingStubs.CppType.Spelling
import BindingStubs.Proofs.Text.Characters

namespace BindingStubs

/-!
# The spellings of a type

A type has many spellings: keywords may precede it, references, qualifiers and the pointer
marks may follow it in any mixture, and blanks may stand wherever words do not touch.  The
relation `Spells` says which texts spell a type, independently of how spellings are read.
-/

namespace Spelling

/-- Whether a character belongs to a word: a letter, a digit or an underscore. -/
def isWordCharacter
    (character : Char) :
    Bool :=
  Text.isAlphanumeric character || character == '_'

/-- Whether a character separates the words of a name. -/
def isSeparator
    (character : Char) :
    Bool :=
  character == ' ' || character == ':'

/-- Words that cannot be a component of a name. -/
def reservedWords : List (List Char) :=
  ["const", "volatile", "restrict", "__restrict", "struct", "class", "enum", "union",
    "typename"].map String.toList

/--
A name without pointer marks: words and separators, with a word character at either end and
without reserved words.
-/
structure IsName
    (name : List Char) : Prop where
  begins :
    name.head?.any isWordCharacter = true
  ends :
    name.getLast?.any isWordCharacter = true
  characters :
    ∀ character ∈ name, isWordCharacter character = true ∨ isSeparator character = true
  components :
    ∀ component ∈ name.splitOnP isSeparator, component ∉ reservedWords

instance
    (name : List Char) :
    Decidable (IsName name) :=
  decidable_of_iff
    (name.head?.any isWordCharacter = true ∧
      name.getLast?.any isWordCharacter = true ∧
      (name.all fun character => isWordCharacter character || isSeparator character) = true ∧
      ((name.splitOnP isSeparator).all fun component => !reservedWords.contains component) =
        true)
    (by
      simp only [List.all_eq_true, Bool.or_eq_true, Bool.not_eq_true', List.contains_eq_mem,
        decide_eq_false_iff_not]
      constructor
      · rintro ⟨begins, ends, characters, components⟩
        exact ⟨begins, ends, characters, components⟩
      · intro isName
        exact ⟨isName.begins, isName.ends, isName.characters, isName.components⟩)

/-- A text of white space. -/
def Blank
    (text : List Char) :
    Prop :=
  ∀ character ∈ text, Text.isWhite character = true

instance
    (text : List Char) :
    Decidable (Blank text) :=
  List.decidableBAll _ text

theorem blank_nil : Blank [] := by
  decide

theorem blank_space : Blank [' '] := by
  decide +kernel

/-- Keywords before a type, each with its space and further blanks. -/
inductive Leading : List Char → Prop where
  | none :
      Leading []
  | keyword
      {keyword blanks rest : List Char} :
      keyword ∈ leadingKeywords →
      Blank blanks →
      Leading rest →
      Leading (keyword ++ blanks ++ rest)

/--
A core followed by blanks, references, pointer marks and qualifiers.  A qualifier is set off
by a character that does not belong to a word.  The number counts the pointer marks.
-/
inductive Decorated
    (core : List Char) :
    Nat → List Char → Prop where
  | bare :
      Decorated core 0 core
  | blank
      {marks : Nat}
      {text : List Char}
      {character : Char} :
      Decorated core marks text →
      Text.isWhite character = true →
      Decorated core marks (text ++ [character])
  | reference
      {marks : Nat}
      {text : List Char} :
      Decorated core marks text →
      Decorated core marks (text ++ ['&'])
  | pointer
      {marks : Nat}
      {text : List Char} :
      Decorated core marks text →
      Decorated core (marks + 1) (text ++ ['*'])
  | qualifier
      {marks : Nat}
      {text qualifier : List Char}
      {last : Char} :
      Decorated core marks (text ++ [last]) →
      isWordCharacter last = false →
      qualifier ∈ trailingQualifiers →
      Decorated core marks (text ++ [last] ++ qualifier)

end Spelling

open Spelling

mutual

/-- The texts that spell a type. -/
inductive Spells : CppType → List Char → Prop where
  | plain
      {name : String}
      {blanks lead text : List Char} :
      Blank blanks →
      Leading lead →
      Decorated (CppType.plain name).baseName.toList (CppType.plain name).pointerDepth text →
      Spells (.plain name) (blanks ++ lead ++ text)
  | applied
      {name : String}
      {arguments : List CppType}
      {blanks lead gap inside text : List Char} :
      Blank blanks →
      Leading lead →
      Blank gap →
      SpellsArguments arguments inside →
      Decorated
        ((CppType.applied name arguments).baseName.toList ++ gap ++ '<' :: inside ++ ['>'])
        (CppType.applied name arguments).pointerDepth text →
      Spells (.applied name arguments) (blanks ++ lead ++ text)

/-- The texts that spell an argument list, without its brackets. -/
inductive SpellsArguments : List CppType → List Char → Prop where
  | nil
      {blanks : List Char} :
      Blank blanks →
      SpellsArguments [] blanks
  | one
      {argument : CppType}
      {text : List Char} :
      Spells argument text →
      SpellsArguments [argument] text
  | cons
      {argument next : CppType}
      {rest : List CppType}
      {text others : List Char} :
      Spells argument text →
      SpellsArguments (next :: rest) others →
      SpellsArguments (argument :: next :: rest) (text ++ ',' :: others)

end

/-- All names that occur in the type are names without reserved words. -/
def CppType.WellFormed
    (type : CppType) :
    Prop :=
  ∀ name ∈ type.baseNames, IsName name.toList

instance
    (type : CppType) :
    Decidable type.WellFormed :=
  List.decidableBAll _ type.baseNames

end BindingStubs
