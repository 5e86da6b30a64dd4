import BindingStubs.Proofs.CppType.FunctionSpellings
import BindingStubs.Proofs.CppType.Reading
import BindingStubs.Proofs.CppType.Weight

namespace BindingStubs

/-!
# Function types inside types

A function type is no type of its own: where it stands as an argument it is a name, which is split
when the argument is rendered.  Reading leaves that name as it is, whatever the return type and the
parameters are, and splitting it gives their spellings back.
-/

open Spelling

namespace FunctionType

section Splitting

variable
    {commas : Bool}
    {text : List Char}

/-- The search for an opening parenthesis passes over a text without brackets. -/
theorem splitAtOpen_append_of_unstructured
    (unstructured : ∀ character ∈ text, character ∉ structuralCharacters)
    (angle : Int)
    (rest : List Char) :
    splitAtOpen angle (text ++ rest) =
      (splitAtOpen angle rest).map fun parts => (text ++ parts.1, parts.2) := by
  induction text with
  | nil => simp
  | cons character text inductionHypothesis =>
      obtain ⟨unstructuredFirst, unstructuredRest⟩ := List.forall_mem_cons.mp unstructured
      simp only [structuralCharacters, List.mem_cons, not_or] at unstructuredFirst
      simp [splitAtOpen, unstructuredFirst, inductionHypothesis unstructuredRest,
        Function.comp_def]

/-- Inside angle brackets it passes over every text whose brackets match. -/
theorem splitAtOpen_append_of_balanced
    (balanced : Balanced commas text)
    {angle : Int}
    (opened : 0 < angle)
    (rest : List Char) :
    splitAtOpen angle (text ++ rest) =
      (splitAtOpen angle rest).map fun parts => (text ++ parts.1, parts.2) := by
  induction balanced generalizing angle rest with
  | nil => simp
  | character unstructured _ inductionHypothesis =>
      simp only [structuralCharacters, List.mem_cons, not_or] at unstructured
      simp [splitAtOpen, unstructured, inductionHypothesis opened, Function.comp_def]
  | comma _ inductionHypothesis =>
      simp [splitAtOpen, inductionHypothesis opened, Function.comp_def]
  | nest _ _ insideHypothesis restHypothesis =>
      have deeper : 0 < angle + 1 := by omega
      simp [splitAtOpen, insideHypothesis deeper, restHypothesis opened, Function.comp_def]
  | parenthesize _ _ insideHypothesis restHypothesis =>
      have inside : angle ≠ 0 := by omega
      simp [splitAtOpen, inside, insideHypothesis opened, restHypothesis opened,
        Function.comp_def]

end Splitting

end FunctionType

namespace CppType

/-! ## The text of a type -/

/-- The text of an argument list, if there is one. -/
def argumentList : Option (List CppType) → List Char
  | none => []
  | some arguments => '<' :: spellArguments arguments ++ ['>']

/-- The text of a type is its name, its argument list and its pointer marks. -/
theorem spell_eq
    (type : CppType) :
    type.spell =
      type.baseName.toList ++ argumentList type.arguments?
        ++ List.replicate type.pointerDepth pointerMark := by
  cases type with
  | plain name => simp [spell, arguments?, argumentList]
  | applied name arguments => simp [spell, arguments?, argumentList]

/-- The text of the types in a list, with commas between. -/
theorem spellArguments_eq_intercalate
    (types : List CppType) :
    spellArguments types = List.intercalate [',', ' '] (types.map spell) := by
  induction types with
  | nil => rfl
  | cons first rest inductionHypothesis =>
      cases rest with
      | nil => simp [spellArguments]
      | cons next rest =>
          rw [spellArguments, inductionHypothesis]
          simp [List.intercalate_cons_cons]

/-- Behind the name of a type follows no word character. -/
theorem exists_after
    (type : CppType) :
    ∃ after,
      type.spell = type.baseName.toList ++ after ∧
        ∀ first ∈ after.head?, isWordCharacter first = false := by
  have apart : isWordCharacter pointerMark = false ∧ isWordCharacter '<' = false := by
    decide +kernel
  refine ⟨argumentList type.arguments? ++ List.replicate type.pointerDepth pointerMark,
    by rw [spell_eq, List.append_assoc], ?_⟩
  cases type.arguments? with
  | some arguments => simpa [argumentList] using apart.2
  | none =>
      cases type.pointerDepth with
      | zero => simp [argumentList]
      | succ levels => simpa [argumentList, List.replicate_succ] using apart.1

section Readable

variable {type : CppType}

theorem Readable.balanced_spell
    (readable : type.Readable) :
    Balanced false type.spell :=
  readable.balanced_of_spells _ type.spells_spell

theorem Readable.parse_spell
    (readable : type.Readable) :
    parse type.spell = type :=
  (readable.parse_of_spells _ type.spells_spell).2

theorem Readable.balanced_spellArguments
    {arguments : List CppType}
    (readable : ∀ argument ∈ arguments, argument.Readable) :
    Balanced true (spellArguments arguments) :=
  (spells_spellArguments fun argument _ => argument.spells_spell).balanced
    fun argument member => (readable argument member).balanced_of_spells

theorem Readable.pointerTo
    (readable : type.Readable) :
    type.pointerTo.Readable := by
  cases readable with
  | plain isWhole =>
      refine .plain ?_
      rw [← baseName_pointerTo] at isWhole
      exact isWhole
  | applied isName argumentsReadable =>
      refine .applied ?_ argumentsReadable
      rw [← baseName_pointerTo] at isName
      exact isName

theorem Readable.addPointers
    (readable : type.Readable)
    (levels : Nat) :
    (type.addPointers levels).Readable := by
  induction levels with
  | zero => exact readable
  | succ levels inductionHypothesis => exact inductionHypothesis.pointerTo

theorem Readable.of_mem_arguments?
    (readable : type.Readable)
    {arguments : List CppType}
    (found : type.arguments? = some arguments) :
    ∀ argument ∈ arguments, argument.Readable := by
  cases readable with
  | plain isWhole => cases found
  | applied isName argumentsReadable =>
      cases found
      exact argumentsReadable

/-- No parenthesis stands outside an argument list. -/
theorem splitAtOpen_argumentList_append
    {arguments? : Option (List CppType)}
    (readable :
      ∀ arguments, arguments? = some arguments → ∀ argument ∈ arguments, argument.Readable)
    (rest : List Char) :
    FunctionType.splitAtOpen 0 (argumentList arguments? ++ rest) =
      (FunctionType.splitAtOpen 0 rest).map fun parts =>
        (argumentList arguments? ++ parts.1, parts.2) := by
  cases arguments? with
  | none => simp [argumentList]
  | some arguments =>
      have balanced := Readable.balanced_spellArguments (readable arguments rfl)
      simp [argumentList, FunctionType.splitAtOpen,
        FunctionType.splitAtOpen_append_of_balanced balanced Int.one_pos, Function.comp_def]

/-- A readable type whose own name is a name, so that it is no bare function type. -/
structure Named
    (type : CppType) : Prop where
  isName : IsName type.baseName.toList
  readable : type.Readable

namespace Named

/-- A type begins with a word. -/
theorem exists_first
    (named : type.Named) :
    ∃ first rest, type.spell = first :: rest ∧ isWordCharacter first = true := by
  obtain ⟨first, rest, begins, word⟩ := named.isName.exists_first
  obtain ⟨after, spelled, -⟩ := type.exists_after
  exact ⟨first, rest ++ after, by rw [spelled, begins, List.cons_append], word⟩

/-- A type ends in a word, a closing bracket or a pointer mark. -/
theorem last_not_white
    (named : type.Named) :
    ∀ last ∈ type.spell.getLast?, Text.isWhite last = false := by
  have notWhite : Text.isWhite pointerMark = false ∧ Text.isWhite '>' = false := by
    decide +kernel
  intro last isLast
  rw [spell_eq] at isLast
  cases levels : type.pointerDepth with
  | succ fewer =>
      rw [levels, List.replicate_succ', ← List.append_assoc, List.getLast?_concat] at isLast
      rw [← Option.mem_some_iff.mp isLast]
      exact notWhite.1
  | zero =>
      rw [levels, List.replicate_zero, List.append_nil] at isLast
      cases found : type.arguments? with
      | none =>
          obtain ⟨front, final, finishes, word⟩ := named.isName.exists_last
          rw [found, argumentList, List.append_nil, finishes, List.getLast?_concat] at isLast
          rw [← Option.mem_some_iff.mp isLast]
          exact isWhite_eq_false_of_word word
      | some arguments =>
          rw [found, argumentList, ← List.append_assoc, List.getLast?_concat] at isLast
          rw [← Option.mem_some_iff.mp isLast]
          exact notWhite.2

/-- Trimming takes off the blanks that surround a type. -/
theorem trim_append
    (named : type.Named)
    {before after : List Char}
    (blankBefore : Blank before)
    (blankAfter : Blank after) :
    Text.trim (before ++ type.spell ++ after) = type.spell := by
  obtain ⟨first, rest, begins, word⟩ := named.exists_first
  rw [Text.trim, List.append_assoc, Text.trimStart_append_of_blank blankBefore, begins,
    List.cons_append, Text.trimStart_cons_of_not_white (isWhite_eq_false_of_word word),
    ← List.cons_append, ← begins, Text.trimEnd_append_of_blank _ blankAfter,
    Text.trimEnd_eq_self_iff.mpr named.last_not_white]

theorem splitAtOpen_append
    (named : type.Named)
    (rest : List Char) :
    FunctionType.splitAtOpen 0 (type.spell ++ rest) =
      (FunctionType.splitAtOpen 0 rest).map fun parts => (type.spell ++ parts.1, parts.2) := by
  have marks :
      ∀ character ∈ List.replicate type.pointerDepth pointerMark,
        character ∉ structuralCharacters := by
    intro character member
    rw [List.eq_of_mem_replicate member]
    decide
  rw [spell_eq, List.append_assoc, List.append_assoc,
    FunctionType.splitAtOpen_append_of_unstructured fun _ => named.isName.unstructured,
    splitAtOpen_argumentList_append fun _ => named.readable.of_mem_arguments?,
    FunctionType.splitAtOpen_append_of_unstructured marks]
  simp [Function.comp_def]

/-- The spelling of a type may be printed between the commas of a list. -/
theorem isPiece_spell
    (named : type.Named) :
    FunctionType.IsPiece type.spell where
  nonempty := by
    obtain ⟨first, rest, begins, -⟩ := named.exists_first
    simp [begins]
  trimmed := by simpa using named.trim_append blank_nil blank_nil
  nested := named.readable.balanced_spell.nested

/-- The spelling of a type other than `void` is that of a parameter. -/
theorem isParameter_spell
    (named : type.Named)
    (notVoid : type ≠ .plain "void") :
    FunctionType.isParameter type.spell = true := by
  obtain ⟨first, rest, begins, word⟩ := named.exists_first
  have voidRead : parse "void".toList = .plain "void" := by
    have wellFormed : (CppType.plain "void").WellFormed := by decide +kernel
    have spelled : (CppType.plain "void").spell = "void".toList := by decide +kernel
    exact spelled ▸ wellFormed.readable.parse_spell
  have unlikeVoid : type.spell ≠ "void".toList := by
    intro same
    exact notVoid (named.readable.parse_spell.symm.trans (same ▸ voidRead))
  have unlikeDots : type.spell ≠ "...".toList := by
    intro same
    rw [begins] at same
    obtain rfl : first = '.' := (List.cons.inj same).1
    exact absurd word (by decide +kernel)
  have nonempty : type.spell.isEmpty = false := by rw [begins]; rfl
  simp only [FunctionType.isParameter, nonempty, Bool.not_false, Bool.true_and, Bool.and_eq_true,
    bne_iff_ne]
  exact ⟨unlikeVoid, unlikeDots⟩

end Named

end Readable

/-! ## Signatures -/

/-- The spelling of the function type with a return type and parameters. -/
def signature
    (returns : CppType)
    (parameters : List CppType) :
    List Char :=
  returns.spell ++ ' ' :: '(' :: spellArguments parameters ++ [')']

/-- What follows an argument list in a text that ends in a parenthesis is not blank, so that none
is split off. -/
theorem splitTemplate?_eq_none_of_parenthesis
    (text : List Char) :
    splitTemplate? (text ++ [')']) = none := by
  rw [Option.eq_none_iff_forall_not_mem]
  rintro ⟨name, inside⟩ found
  obtain ⟨before, after, whole, -, blank⟩ := exists_of_splitTemplate? found
  cases after using List.reverseRecOn with
  | nil => exact absurd (List.append_inj' whole rfl).2 (by decide)
  | append_singleton after last _ =>
      rw [← List.cons_append, ← List.append_assoc] at whole
      have isLast : ')' = last := List.singleton_inj.mp (List.append_inj' whole rfl).2
      rw [Text.isBlank, List.all_append, Bool.and_eq_true, ← isLast] at blank
      exact absurd blank.2 (by decide +kernel)

section Signatures

variable
    {returns : CppType}
    {parameters : List CppType}

/-- A signature is left as it is by reading. -/
theorem isWhole_signature
    (returnsNamed : returns.Named)
    (parametersReadable : ∀ parameter ∈ parameters, parameter.Readable) :
    IsWhole (signature returns parameters) where
  isCore := by
    refine ⟨solid_of_close (by simp) _, ?_⟩
    intro marks text decorated
    obtain ⟨after, rfl⟩ := decorated.core_prefix
    obtain ⟨behind, spelled, apart⟩ := returns.exists_after
    rw [signature, spelled]
    simp only [List.append_assoc]
    apply returnsNamed.isName.opens
    cases behind with
    | nil =>
        simp only [List.nil_append, List.cons_append, List.head?_cons, Option.mem_some_iff,
          forall_eq']
        decide +kernel
    | cons first behind => exact apart
  unsplit := splitTemplate?_eq_none_of_parenthesis _
  balanced := by
    rw [signature, List.append_assoc, List.cons_append, List.cons_append]
    refine returnsNamed.readable.balanced_spell.append (.character (by decide) ?_)
    exact .parenthesize (Readable.balanced_spellArguments parametersReadable) .nil

/-- Splitting a signature gives the spellings of the return type and the parameters back. -/
theorem split?_signature
    (returnsNamed : returns.Named)
    (parametersNamed : ∀ parameter ∈ parameters, parameter.Named)
    (noVoid : ∀ parameter ∈ parameters, parameter ≠ .plain "void") :
    FunctionType.split? (signature returns parameters) =
      some { returns := returns.spell, parameters := parameters.map spell } := by
  have opened :
      FunctionType.splitAtOpen 0 (signature returns parameters) =
        some (returns.spell ++ [' '], spellArguments parameters ++ [')']) := by
    rw [signature, List.append_assoc, returnsNamed.splitAtOpen_append]
    simp [FunctionType.splitAtOpen]
  have arePieces : ∀ piece ∈ parameters.map spell, FunctionType.IsPiece piece := by
    intro piece member
    obtain ⟨parameter, inParameters, rfl⟩ := List.mem_map.mp member
    exact (parametersNamed parameter inParameters).isPiece_spell
  have closed :
      FunctionType.splitAtClose 1 (spellArguments parameters ++ [')']) =
        some (spellArguments parameters, []) := by
    rw [spellArguments_eq_intercalate,
      FunctionType.splitAtClose_append (FunctionType.nested_intercalate arePieces) (Nat.le_refl 1)]
    simp [FunctionType.splitAtClose]
  have split : splitTopLevel (spellArguments parameters) = parameters.map spell := by
    rw [spellArguments_eq_intercalate, FunctionType.splitTopLevel_intercalate arePieces]
  have kept : (parameters.map spell).filter FunctionType.isParameter = parameters.map spell := by
    rw [List.filter_eq_self]
    intro piece member
    obtain ⟨parameter, inParameters, rfl⟩ := List.mem_map.mp member
    exact (parametersNamed parameter inParameters).isParameter_spell (noVoid _ inParameters)
  have returnsTrimmed := returnsNamed.trim_append blank_nil blank_space
  rw [List.nil_append] at returnsTrimmed
  rw [FunctionType.split?, opened]
  simp only [closed, split, kept, returnsTrimmed]

end Signatures

/-! ## The types that are formed from names and function types -/

/-- The standard template of callables, applied to a function type. -/
def function
    (returns : CppType)
    (parameters : List CppType) :
    CppType :=
  .applied "std::function" [.plain (String.ofList (signature returns parameters))]

/-- The types that names form: a name, a name with formed arguments, and callables with a formed
return type and formed parameters, each under any pointer levels. -/
inductive Formed : CppType → Prop where
  | plain
      {name : String} :
      IsName (CppType.plain name).baseName.toList →
      Formed (.plain name)
  | applied
      {name : String}
      {arguments : List CppType} :
      IsName (CppType.applied name arguments).baseName.toList →
      (∀ argument ∈ arguments, Formed argument) →
      Formed (.applied name arguments)
  | function
      {returns : CppType}
      {parameters : List CppType}
      (levels : Nat) :
      Formed returns →
      (∀ parameter ∈ parameters, Formed parameter) →
      Formed ((function returns parameters).addPointers levels)

/-- Well-formed types are formed without callables. -/
theorem WellFormed.formed
    {type : CppType}
    (wellFormed : type.WellFormed) :
    type.Formed := by
  induction type using recurse with
  | plain name => exact .plain (wellFormed_plain_iff.mp wellFormed)
  | applied name arguments inductionHypothesis =>
      obtain ⟨isName, argumentsWellFormed⟩ := wellFormed_applied_iff.mp wellFormed
      exact .applied isName fun argument member =>
        inductionHypothesis argument member (argumentsWellFormed argument member)

section Functions

variable
    {returns : CppType}
    {parameters : List CppType}

/-- A signature has no pointer levels of its own. -/
theorem parts_signature
    (returns : CppType)
    (parameters : List CppType) :
    (CppType.plain (String.ofList (signature returns parameters))).baseName.toList =
        signature returns parameters ∧
      (CppType.plain (String.ofList (signature returns parameters))).pointerDepth = 0 := by
  apply parts_eq_of_toList_name
  · rw [signature, List.getLast?_concat]
    decide
  · rw [CppType.name, String.toList_ofList, List.replicate_zero, List.append_nil]

/-- The name of a callable has no pointer marks. -/
theorem parts_function
    (returns : CppType)
    (parameters : List CppType) :
    (function returns parameters).baseName = "std::function" ∧
      (function returns parameters).pointerDepth = 0 := by
  have named : (function returns parameters).name = "std::function" := by
    rw [function, name]
  have parts :
      (function returns parameters).baseName.toList = "std::function".toList ∧
        (function returns parameters).pointerDepth = 0 := by
    apply parts_eq_of_toList_name
    · decide
    · rw [named, List.replicate_zero, List.append_nil]
  exact ⟨String.toList_inj.mp parts.1, parts.2⟩

theorem named_function
    (returnsNamed : returns.Named)
    (parametersNamed : ∀ parameter ∈ parameters, parameter.Named) :
    (function returns parameters).Named := by
  have isName : IsName (function returns parameters).baseName.toList := by
    rw [(parts_function returns parameters).1]
    decide +kernel
  refine ⟨isName, .applied isName ?_⟩
  intro argument member
  rw [List.mem_singleton.mp member]
  refine .plain ?_
  rw [(parts_signature returns parameters).1]
  exact isWhole_signature returnsNamed fun parameter inParameters =>
    (parametersNamed parameter inParameters).readable

/-- Formed types are read back, and their own names are names. -/
theorem Formed.named
    {type : CppType}
    (formed : type.Formed) :
    type.Named := by
  induction formed with
  | plain isName => exact ⟨isName, .plain isName.isWhole⟩
  | applied isName _ inductionHypothesis =>
      exact ⟨isName,
        .applied isName fun argument member => (inductionHypothesis argument member).readable⟩
  | function levels _ _ returnsNamed parametersNamed =>
      obtain ⟨isName, readable⟩ := named_function returnsNamed parametersNamed
      exact ⟨by rwa [baseName_addPointers], readable.addPointers levels⟩

/-- A signature is the spelling of the name it is. -/
theorem spell_signature
    (returns : CppType)
    (parameters : List CppType) :
    (CppType.plain (String.ofList (signature returns parameters))).spell =
      signature returns parameters := by
  obtain ⟨sameName, noLevels⟩ := parts_signature returns parameters
  rw [spell, sameName, noLevels, List.replicate_zero, List.append_nil]

/-- The text of a callable. -/
theorem text_function
    (returns : CppType)
    (parameters : List CppType) :
    (function returns parameters).text =
      "std::function<" ++ returns.text ++ " (" ++ String.intercalate ", " (parameters.map text)
        ++ ")>" := by
  obtain ⟨base, noLevels⟩ := parts_function returns parameters
  have texts : (parameters.map text).map String.toList = parameters.map spell := by
    rw [List.map_map]
    exact List.map_congr_left fun parameter _ => String.toList_ofList
  apply String.toList_inj.mp
  rw [text, String.toList_ofList, spell_eq, base, noLevels, function, arguments?, argumentList,
    spellArguments, spell_signature, signature, spellArguments_eq_intercalate]
  simp only [String.toList_append, String.toList_intercalate, texts, text, String.toList_ofList]
  simp

/-- Reading the text of a callable gives the callable. -/
theorem ofString_text_function
    (returnsNamed : returns.Named)
    (parametersNamed : ∀ parameter ∈ parameters, parameter.Named) :
    ofString (function returns parameters).text = function returns parameters := by
  rw [ofString, CppType.text, String.toList_ofList]
  exact (named_function returnsNamed parametersNamed).readable.parse_spell

/-- The argument of a callable is split into the return type and the parameters. -/
theorem split?_argument_function
    (returnsNamed : returns.Named)
    (parametersNamed : ∀ parameter ∈ parameters, parameter.Named)
    (noVoid : ∀ parameter ∈ parameters, parameter ≠ .plain "void") :
    ((function returns parameters).argument? 0).bind
        (fun argument => FunctionType.split? argument.spell) =
      some { returns := returns.spell, parameters := parameters.map spell } := by
  rw [function, argument?, arguments?, Option.bind_some, List.getElem?_cons_zero,
    Option.bind_some, spell_signature, split?_signature returnsNamed parametersNamed noVoid]

end Functions

end CppType

end BindingStubs
