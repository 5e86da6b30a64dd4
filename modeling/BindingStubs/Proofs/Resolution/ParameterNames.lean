import BindingStubs.Proofs.Resolution.Respelling
import BindingStubs.Proofs.Resolution.Termination
import Mathlib.Logic.Relation

namespace BindingStubs

/-!
# The names of parameters do not matter

Of two rules with the same canonical form it does not matter which one is stored, as long as the
texts that are filled in for one parameter are not taken for references to another.  Corresponding
parameters are bound to the same types and referred to in the same places, so that filling all
placeholders at once gives the same text.
-/

/-! ## References by name -/

namespace Piece

/-- The name that a piece refers to. -/
def name? : Piece → Option String
  | .reference name => some name
  | .symbol _ => none

/-- The names that a text refers to. -/
def references
    (text : String) :
    List String :=
  (pieces text.toList).filterMap name?

theorem mem_references_iff
    {name text : String} :
    name ∈ references text ↔ .reference name ∈ pieces text.toList := by
  rw [references, List.mem_filterMap]
  constructor
  · rintro ⟨piece, member, isNamed⟩
    cases piece with
    | reference other =>
        cases isNamed
        exact member
    | symbol character => cases isNamed
  · exact fun member => ⟨_, member, rfl⟩

end Piece

namespace TypeRule

open Resolution

/-- The texts that a rule fills in. -/
def texts
    (rule : TypeRule) :
    List String :=
  rule.rendering :: rule.declarations

/-- A name without braces and without the mark of positional names. -/
def Markless
    (name : String) :
    Prop :=
  ∀ character ∈ name.toList, character ∉ ['$', '\x7b', '\x7d']

-- Characters can also be enumerated, which is no way to decide this.
instance
    (name : String) :
    Decidable (Markless name) :=
  List.decidableBAll _ _

/-- A rule whose parameters can be renamed: they are named without braces and the mark of
positional names, which begins no other name that could be taken for one of those, and a parameter
that a text refers to is not only applied to arguments. -/
structure Respellable
    (rule : TypeRule) : Prop where
  named : ∀ parameter ∈ rule.parameters, Markless parameter
  unmarked :
    ∀ node ∈ rule.pattern.nodes, node.arguments? = none → ¬ ['$'] <+: node.name.toList
  unmarkedReferences :
    ∀ text ∈ rule.texts, ∀ name ∈ Piece.references text, ¬ ['$'] <+: name.toList
  stands :
    ∀ parameter ∈ rule.parametersInOrder,
      refersTo rule parameter = true → Matching.Stands parameter rule.pattern

instance
    (rule : TypeRule) :
    Decidable rule.Respellable :=
  decidable_of_iff
    ((∀ parameter ∈ rule.parameters, Markless parameter) ∧
      (∀ node ∈ rule.pattern.nodes, node.arguments? = none → ¬ ['$'] <+: node.name.toList) ∧
      (∀ text ∈ rule.texts, ∀ name ∈ Piece.references text, ¬ ['$'] <+: name.toList) ∧
      ∀ parameter ∈ rule.parametersInOrder,
        refersTo rule parameter = true → Matching.Stands parameter rule.pattern)
    ⟨fun ⟨named, unmarked, unmarkedReferences, stands⟩ =>
        ⟨named, unmarked, unmarkedReferences, stands⟩,
      fun ⟨named, unmarked, unmarkedReferences, stands⟩ =>
        ⟨named, unmarked, unmarkedReferences, stands⟩⟩

section Texts

open Piece

variable
  {rule respelled : TypeRule}

theorem Respellable.braceless
    (respellable : rule.Respellable)
    {parameter : String}
    (isParameter : parameter ∈ rule.parameters) :
    Braceless parameter.toList := by
  intro character member
  have allowed := respellable.named parameter isParameter character member
  simp only [List.mem_cons, not_or] at allowed
  exact ⟨allowed.2.1, allowed.2.2.1⟩

theorem Respellable.not_mark_prefix
    (respellable : rule.Respellable)
    {parameter : String}
    (isParameter : parameter ∈ rule.parameters) :
    ¬ ['$'] <+: parameter.toList := by
  intro marked
  exact respellable.named parameter isParameter '$' (marked.subset (.head _)) (.head _)

theorem braceless_positional
    (position : Nat) :
    Braceless ("$" ++ Text.ofNat position).toList := by
  intro character member
  rw [String.toList_append, List.mem_append] at member
  rcases member with isMark | isDigit
  · rw [List.mem_singleton.mp isMark]
    decide
  · rw [Text.ofNat, Nat.toList_repr] at isDigit
    have digit := Nat.isDigit_of_mem_toDigits (by decide) (by decide) isDigit
    constructor
    · rintro rfl
      exact absurd digit (by decide)
    · rintro rfl
      exact absurd digit (by decide)

/-- In the canonical form of a text, the references to parameters are named by position. -/
theorem Respellable.pieces_canonical
    (respellable : rule.Respellable)
    (text : String) :
    pieces (renameReferences rule.positionalNames text).toList =
      (pieces text.toList).map (rename (renamed rule.positionalNames)) := by
  have entries :
      ∀ entry ∈ rule.positionalNames.entries,
        entry.1 ∈ rule.parameters ∧ ∃ position, entry.2 = "$" ++ Text.ofNat position := by
    intro entry member
    obtain ⟨⟨parameter, position⟩, listed, rfl⟩ := List.mem_map.mp member
    exact ⟨(mem_parametersInOrder.mp (List.fst_mem_of_mem_zipIdx listed)).1, position, rfl⟩
  refine pieces_renameReferences (fun entry member => ?_)
    (fun entry member other member' => ?_) text
  · obtain ⟨isParameter, position, isPositional⟩ := entries entry member
    exact ⟨respellable.braceless isParameter, isPositional ▸ braceless_positional position⟩
  · obtain ⟨_, position, isPositional⟩ := entries entry member
    obtain ⟨isParameter, _⟩ := entries other member'
    intro same
    apply respellable.not_mark_prefix isParameter
    rw [same, isPositional, String.toList_append]
    exact List.prefix_append _ _

end Texts

/-! ## Corresponding references -/

/-- Two rules that can be renamed, with the same canonical form and with their parameters in the
same order. -/
structure Renaming
    (rule respelled : TypeRule) : Prop where
  sameForm : rule.canonicalForm = respelled.canonicalForm
  sameOrder :
    rule.parameters.map rule.positionalNames.get? =
      respelled.parameters.map respelled.positionalNames.get?
  respellable : rule.Respellable
  respellable' : respelled.Respellable

section References

open Piece Specificity

variable
  {rule respelled : TypeRule}

theorem Renaming.respelling
    (alike : rule.Renaming respelled) :
    rule.Respelling respelled where
  samePattern := congrArg CanonicalForm.pattern alike.sameForm
  sameOrder := alike.sameOrder
  unmarked := alike.respellable.unmarked
  unmarked' := alike.respellable'.unmarked

/-- Names that stand for each other in the texts of two rules: corresponding parameters, or the same
name that is no parameter of the patterns. -/
inductive SameReference
    (rule respelled : TypeRule) : String → String → Prop where
  | parameter {name name' : String} :
      Counterparts rule respelled name name' →
      SameReference rule respelled name name'
  | other {name : String} :
      rule.positionalNames.get? name = none →
      respelled.positionalNames.get? name = none →
      SameReference rule respelled name name

theorem sameReference_of_renamed_eq
    {name name' : String}
    (unmarked : ¬ ['$'] <+: name.toList)
    (unmarked' : ¬ ['$'] <+: name'.toList)
    (same : renamed rule.positionalNames name = renamed respelled.positionalNames name') :
    SameReference rule respelled name name' := by
  rw [renamed, renamed] at same
  cases found : rule.positionalNames.get? name with
  | some positional =>
      cases found' : respelled.positionalNames.get? name' with
      | some positional' =>
          rw [found, found'] at same
          exact .parameter ⟨positional, found, found'.trans (congrArg some same.symm)⟩
      | none =>
          rw [found, found'] at same
          obtain rfl : positional = name' := same
          exact absurd (mark_prefix_of_get?_positionalNames found) unmarked'
  | none =>
      cases found' : respelled.positionalNames.get? name' with
      | some positional' =>
          rw [found, found'] at same
          obtain rfl : name = positional' := same
          exact absurd (mark_prefix_of_get?_positionalNames found') unmarked
      | none =>
          rw [found, found'] at same
          obtain rfl : name = name' := same
          exact .other found found'

/-- Pieces with the same characters, or references that stand for each other. -/
inductive SamePiece
    (rule respelled : TypeRule) : Piece → Piece → Prop where
  | reference {name name' : String} :
      SameReference rule respelled name name' →
      SamePiece rule respelled (.reference name) (.reference name')
  | symbol (character : Char) :
      SamePiece rule respelled (.symbol character) (.symbol character)

/-- Texts in the same place of two rules. -/
def SameText
    (rule respelled : TypeRule)
    (text text' : String) :
    Prop :=
  List.Forall₂ (SamePiece rule respelled) (pieces text.toList) (pieces text'.toList)

theorem Renaming.sameText
    (alike : rule.Renaming respelled)
    {text text' : String}
    (member : text ∈ rule.texts)
    (member' : text' ∈ respelled.texts)
    (same :
      renameReferences rule.positionalNames text =
        renameReferences respelled.positionalNames text') :
    SameText rule respelled text text' := by
  have samePieces := congrArg (fun text : String => pieces text.toList) same
  simp only [alike.respellable.pieces_canonical, alike.respellable'.pieces_canonical]
    at samePieces
  refine forall₂_imp_of_mem ?_ (forall₂_iff_map_eq.mpr samePieces)
  intro piece isPiece piece' isPiece' renamedAlike
  cases piece with
  | symbol character =>
      cases piece' with
      | symbol character' =>
          obtain rfl := Piece.symbol.inj renamedAlike
          exact .symbol character
      | reference name' => cases renamedAlike
  | reference name =>
      cases piece' with
      | symbol character' => cases renamedAlike
      | reference name' =>
          refine .reference (sameReference_of_renamed_eq ?_ ?_ (Piece.reference.inj renamedAlike))
          · exact alike.respellable.unmarkedReferences text member name
              (mem_references_iff.mpr isPiece)
          · exact alike.respellable'.unmarkedReferences text' member' name'
              (mem_references_iff.mpr isPiece')

/-- The texts of the rules correspond one by one. -/
theorem Renaming.forall₂_texts
    (alike : rule.Renaming respelled) :
    List.Forall₂ (SameText rule respelled) rule.texts respelled.texts := by
  have sameRendering := congrArg CanonicalForm.rendering alike.sameForm
  have sameDeclarations := congrArg CanonicalForm.declarations alike.sameForm
  have canonical :
      rule.texts.map (renameReferences rule.positionalNames) =
        respelled.texts.map (renameReferences respelled.positionalNames) := by
    rw [texts, texts, List.map_cons, List.map_cons]
    exact congrArg₂ List.cons sameRendering sameDeclarations
  refine forall₂_imp_of_mem ?_ (forall₂_iff_map_eq.mpr canonical)
  exact fun text member text' member' => alike.sameText member member'

theorem refersTo_iff
    (respellable : rule.Respellable)
    {parameter : String}
    (isParameter : parameter ∈ rule.parameters) :
    refersTo rule parameter = true ↔ ∃ text ∈ rule.texts, parameter ∈ references text := by
  simp only [refersTo, Bool.or_eq_true, List.any_eq_true, mem_references_iff, texts,
    List.exists_mem_cons_iff, occursIn_placeholder_iff (respellable.braceless isParameter)]

theorem SamePiece.reference_iff
    {piece piece' : Piece}
    (samePiece : SamePiece rule respelled piece piece')
    {parameter counterpart : String}
    (counterparts : Counterparts rule respelled parameter counterpart) :
    .reference parameter = piece ↔ .reference counterpart = piece' := by
  cases samePiece with
  | symbol character => simp
  | reference sameReference =>
      rw [Piece.reference.injEq, Piece.reference.injEq]
      cases sameReference with
      | parameter others =>
          exact Relator.rel_eq (counterparts_biUnique rule respelled) counterparts others
      | other unnamed unnamed' =>
          obtain ⟨positional, found, found'⟩ := counterparts
          constructor
          · rintro rfl
            rw [unnamed] at found
            cases found
          · rintro rfl
            rw [unnamed'] at found'
            cases found'

theorem SameText.mem_references_iff
    {text text' : String}
    (sameText : SameText rule respelled text text')
    {parameter counterpart : String}
    (counterparts : Counterparts rule respelled parameter counterpart) :
    parameter ∈ references text ↔ counterpart ∈ references text' := by
  rw [Piece.mem_references_iff, Piece.mem_references_iff]
  rw [SameText] at sameText
  generalize pieces text.toList = ones at sameText
  generalize pieces text'.toList = others at sameText
  induction sameText with
  | nil => simp
  | cons first _ inductionHypothesis =>
      rw [List.mem_cons, List.mem_cons, first.reference_iff counterparts, inductionHypothesis]

/-- Corresponding parameters are both referred to or neither is. -/
theorem Renaming.refersTo_eq
    (alike : rule.Renaming respelled)
    {parameter counterpart : String}
    (counterparts : Counterparts rule respelled parameter counterpart) :
    refersTo rule parameter = refersTo respelled counterpart := by
  obtain ⟨isParameter, isParameter'⟩ := counterparts.mem_parameters
  rw [Bool.eq_iff_iff, refersTo_iff alike.respellable isParameter,
    refersTo_iff alike.respellable' isParameter']
  have sameTexts := alike.forall₂_texts
  generalize rule.texts = ones at sameTexts
  generalize respelled.texts = others at sameTexts
  induction sameTexts with
  | nil => simp
  | cons first _ inductionHypothesis =>
      rw [List.exists_mem_cons_iff, List.exists_mem_cons_iff]
      exact or_congr (first.mem_references_iff counterparts) inductionHypothesis

end References

end TypeRule

/-! ## Filling corresponding references -/

namespace Resolution

open TypeRule Piece

section Filling

variable
  {rule respelled : TypeRule}

/-- The parameters of a rule that are referred to and bound. -/
def referred
    (rule : TypeRule)
    (bindings : Bindings)
    (parameters : List String) :
    List String :=
  parameters.filter fun parameter => refersTo rule parameter && (bindings.get? parameter).isSome

/-- Names in braces with the texts that replace them. -/
def replacing
    (names texts : List String) :
    List (List Char × List Char) :=
  List.zipWith (fun name text => (placeholder name, text.toList)) names texts

theorem mem_replacing
    {names texts : List String}
    {replacement : List Char × List Char}
    (member : replacement ∈ replacing names texts) :
    ∃ name ∈ names, ∃ text ∈ texts, replacement = (placeholder name, text.toList) := by
  rw [replacing, ← List.map_uncurry_zip_eq_zipWith] at member
  obtain ⟨⟨name, text⟩, paired, rfl⟩ := List.mem_map.mp member
  obtain ⟨isName, isText⟩ := List.of_mem_zip paired
  exact ⟨name, isName, text, isText, rfl⟩

/-- Rendering bindings is rendering the types that are referred to, in order. -/
theorem renderBindings_eq
    (resolvePart : CppType → Resolving String)
    (rule : TypeRule)
    (bindings : Bindings)
    (parameters : List String) :
    renderBindings resolvePart rule bindings parameters = do
      let texts ←
        resolveAll resolvePart ((parameters.filter (refersTo rule)).filterMap bindings.get?)
      return replacing (referred rule bindings parameters) texts := by
  induction parameters with
  | nil => rfl
  | cons parameter rest inductionHypothesis =>
      rw [renderBindings, referred, List.filter_cons, List.filter_cons]
      rw [referred] at inductionHypothesis
      cases found : bindings.get? parameter with
      | none =>
          simp only [Option.isSome_none, Bool.and_false, Bool.false_eq_true, ↓reduceIte]
          cases refersTo rule parameter with
          | false => exact inductionHypothesis
          | true =>
              simp only [↓reduceIte, List.filterMap_cons_none found]
              exact inductionHypothesis
      | some bound =>
          simp only [Option.isSome_some, Bool.and_true]
          cases refersTo rule parameter with
          | false => exact inductionHypothesis
          | true =>
              simp only [↓reduceIte, List.filterMap_cons_some found, resolveAll,
                inductionHypothesis, bind_assoc, pure_bind]
              rfl

/-- Only parameters with a name by position are bound. -/
theorem Instantiates.get?_eq_none
    {bindings : Bindings}
    (instantiates : Instantiates rule bindings)
    {name : String}
    (unnamed : rule.positionalNames.get? name = none) :
    bindings.get? name = none := by
  rw [← Option.not_isSome_iff_eq_none]
  intro isBound
  obtain ⟨isParameter, node, isNode, _, named⟩ := (instantiates name).mp isBound
  have listed : name ∈ rule.parametersInOrder :=
    mem_parametersInOrder.mpr ⟨isParameter, node, isNode, named⟩
  rw [← isSome_get?_positionalNames, unnamed] at listed
  cases listed

/-- Parameters with the same name by position are bound alike, and correspond if they are bound. -/
theorem InstantiateAlike.get?_eq
    {bindings bindings' : Bindings}
    (bound : InstantiateAlike rule respelled bindings bindings')
    {parameter counterpart : String}
    (same :
      rule.positionalNames.get? parameter = respelled.positionalNames.get? counterpart) :
    bindings.get? parameter = bindings'.get? counterpart ∧
      ((bindings.get? parameter).isSome → Counterparts rule respelled parameter counterpart) := by
  cases found : rule.positionalNames.get? parameter with
  | none =>
      rw [bound.instantiates.get?_eq_none found, bound.instantiates'.get?_eq_none (same ▸ found)]
      exact ⟨rfl, nofun⟩
  | some positional =>
      have counterparts : Counterparts rule respelled parameter counterpart :=
        ⟨positional, found, same ▸ found⟩
      exact ⟨bound.alike counterparts, fun _ => counterparts⟩

section Parameters

variable
  (alike : rule.Renaming respelled)
  {bindings bindings' : Bindings}
  (bound : InstantiateAlike rule respelled bindings bindings')
  {parameters parameters' : List String}
  (same :
    List.Forall₂
      (fun parameter counterpart =>
        rule.positionalNames.get? parameter = respelled.positionalNames.get? counterpart)
      parameters parameters')

include alike bound same

/-- Rules that are respelled turn to the same types. -/
theorem filterMap_referred_eq :
    (parameters.filter (refersTo rule)).filterMap bindings.get? =
      (parameters'.filter (refersTo respelled)).filterMap bindings'.get? := by
  rw [List.filterMap_filter, List.filterMap_filter]
  induction same with
  | nil => rfl
  | @cons parameter counterpart _ _ sameName _ inductionHypothesis =>
      obtain ⟨sameType, correspond⟩ := bound.get?_eq sameName
      have sameHead :
          (if refersTo rule parameter = true then bindings.get? parameter else none) =
            if refersTo respelled counterpart = true then bindings'.get? counterpart else none := by
        rw [← sameType]
        cases isBound : bindings.get? parameter with
        | none => simp
        | some type =>
            have counterparts := correspond (isBound ▸ rfl)
            rw [alike.refersTo_eq counterparts]
      rw [List.filterMap_cons, List.filterMap_cons, sameHead, inductionHypothesis]

theorem forall₂_referred :
    List.Forall₂ (Counterparts rule respelled) (referred rule bindings parameters)
      (referred respelled bindings' parameters') := by
  induction same with
  | nil => exact .nil
  | @cons parameter counterpart _ _ sameName _ inductionHypothesis =>
      obtain ⟨sameType, correspond⟩ := bound.get?_eq sameName
      rw [referred, referred, List.filter_cons, List.filter_cons, ← sameType]
      cases isBound : bindings.get? parameter with
      | none => simpa [referred] using inductionHypothesis
      | some type =>
          have counterparts := correspond (isBound ▸ rfl)
          rw [alike.refersTo_eq counterparts]
          cases refersTo respelled counterpart with
          | false => simpa [referred] using inductionHypothesis
          | true => simpa [referred, counterparts] using inductionHypothesis

end Parameters

theorem lookup_replacing_eq
    {names names' : List String}
    (correspond : List.Forall₂ (Counterparts rule respelled) names names')
    (texts : List String)
    {name name' : String}
    (counterparts : Counterparts rule respelled name name') :
    (replacing names texts).lookup (placeholder name) =
      (replacing names' texts).lookup (placeholder name') := by
  induction correspond generalizing texts with
  | nil => rfl
  | @cons other other' _ _ others _ inductionHypothesis =>
      cases texts with
      | nil => rfl
      | cons text rest =>
          have sameName : (placeholder name == placeholder other) =
              (placeholder name' == placeholder other') := by
            rw [Bool.eq_iff_iff, beq_iff_eq, beq_iff_eq, placeholder_injective.eq_iff,
              placeholder_injective.eq_iff]
            exact Relator.rel_eq (counterparts_biUnique rule respelled) counterparts others
          have restAlike := inductionHypothesis rest
          rw [replacing, replacing] at restAlike
          simp only [replacing, List.zipWith_cons_cons, List.lookup_cons, sameName, restAlike]

/-- Exactly the names that are listed are replaced. -/
theorem isSome_lookup_replacing
    {names texts : List String}
    (sameLength : names.length = texts.length)
    (name : String) :
    ((replacing names texts).lookup (placeholder name)).isSome ↔ name ∈ names := by
  induction names generalizing texts with
  | nil => simp [replacing]
  | cons first names inductionHypothesis =>
      cases texts with
      | nil => cases sameLength
      | cons text texts =>
          have rest := inductionHypothesis (Nat.succ.inj sameLength)
          rw [replacing] at rest ⊢
          rw [List.zipWith_cons_cons, List.lookup_cons]
          by_cases same : name = first
          · simp [same]
          · have apart : (placeholder name == placeholder first) = false := by
              simpa using fun samePlaceholder => same (placeholder_injective samePlaceholder)
            simp [apart, same, rest]

/-- A parameter that a text refers to is among those that are filled in. -/
theorem mem_referred
    (respellable : rule.Respellable)
    {bindings : Bindings}
    (instantiates : Instantiates rule bindings)
    {parameter text : String}
    (listed : parameter ∈ rule.parametersInOrder)
    (member : text ∈ rule.texts)
    (refers : parameter ∈ references text) :
    parameter ∈ referred rule bindings rule.parameters := by
  have isParameter := (mem_parametersInOrder.mp listed).1
  have isReferred : refersTo rule parameter = true :=
    (refersTo_iff respellable isParameter).mpr ⟨text, member, refers⟩
  have isBound : (bindings.get? parameter).isSome :=
    (instantiates parameter).mpr ⟨isParameter, respellable.stands parameter listed isReferred⟩
  rw [referred, List.mem_filter, isReferred, isBound]
  exact ⟨isParameter, rfl⟩

theorem not_mem_referred
    {bindings : Bindings}
    (instantiates : Instantiates rule bindings)
    {name : String}
    (unnamed : rule.positionalNames.get? name = none) :
    name ∉ referred rule bindings rule.parameters := by
  rw [referred, List.mem_filter, instantiates.get?_eq_none unnamed]
  simp

section Filled

variable
  (alike : rule.Renaming respelled)
  {bindings bindings' : Bindings}
  (bound : InstantiateAlike rule respelled bindings bindings')
  {texts : List String}
  (complete : (referred rule bindings rule.parameters).length = texts.length)

include alike bound complete

theorem fillPiece_eq
    {text : String}
    (member : text ∈ rule.texts)
    {piece piece' : Piece}
    (isPiece : piece ∈ pieces text.toList)
    (samePiece : SamePiece rule respelled piece piece') :
    fillPiece (replacing (referred rule bindings rule.parameters) texts) piece =
      fillPiece (replacing (referred respelled bindings' respelled.parameters) texts) piece' := by
  have correspond := forall₂_referred alike bound alike.respelling.forall₂_parameters
  have complete' := correspond.length_eq.symm.trans complete
  cases samePiece with
  | symbol character => rfl
  | @reference name name' sameReference =>
      rw [fillPiece, fillPiece]
      cases sameReference with
      | parameter counterparts =>
          have isReferred := mem_referred alike.respellable bound.instantiates
            counterparts.inOrder.1 member (mem_references_iff.mpr isPiece)
          rw [← lookup_replacing_eq correspond texts counterparts]
          obtain ⟨filled, isFilled⟩ :=
            Option.isSome_iff_exists.mp ((isSome_lookup_replacing complete name).mpr isReferred)
          rw [isFilled]
          rfl
      | other unnamed unnamed' =>
          have notReferred := not_mem_referred bound.instantiates unnamed
          have notReferred' := not_mem_referred bound.instantiates' unnamed'
          rw [← isSome_lookup_replacing complete, Option.not_isSome_iff_eq_none] at notReferred
          rw [← isSome_lookup_replacing complete', Option.not_isSome_iff_eq_none] at notReferred'
          rw [notReferred, notReferred']

/-- Filling all placeholders at once gives the same text. -/
theorem fillAtOnce_eq
    {text text' : String}
    (member : text ∈ rule.texts)
    (sameText : SameText rule respelled text text') :
    fillAtOnce (replacing (referred rule bindings rule.parameters) texts) text =
      fillAtOnce (replacing (referred respelled bindings' respelled.parameters) texts) text' := by
  have filled := Specificity.forall₂_imp_of_mem
    (fun piece isPiece piece' _ => fillPiece_eq alike bound complete member isPiece) sameText
  rw [fillAtOnce, fillAtOnce, List.flatMap_def, List.flatMap_def,
    Specificity.forall₂_iff_map_eq.mp filled]

end Filled

end Filling

/-! ## Resolving by respelled rules -/

/-- Every placeholder that a rule fills in for a type is filled as if all were filled at once. -/
def FillsAtOnce
    (rule : TypeRule)
    (context : ResolutionScope)
    (type : CppType) :
    Prop :=
  ∀ bindings replacements,
    isEntity context.model type = false →
    chooseRule (context.model.rulesFor type.name) type = .applied rule bindings →
    ComesTo (renderBindings (resolve context) rule bindings rule.parameters) replacements →
    ∀ text ∈ rule.texts, fill replacements text = fillAtOnce replacements text

/-- A type is turned to on the way from another one. -/
def Reaches
    (model : BindingModel) :
    CppType → CppType → Prop :=
  Relation.ReflTransGen fun type part => part ∈ parts model type

/-- What is reached from a type is among any types that it is one of and that have their parts among
them. -/
theorem mem_of_reaches
    {model : BindingModel}
    {types : List CppType}
    (closed : ∀ type ∈ types, parts model type ⊆ types)
    {type part : CppType}
    (member : type ∈ types)
    (reaches : Reaches model type part) :
    part ∈ types := by
  induction reaches with
  | refl => exact member
  | tail _ isPart inductionHypothesis => exact closed _ inductionHypothesis isPart

/-- The same fault, or ambiguities of the same type between as many candidates. -/
def SameKind
    (fault fault' : Fault) :
    Prop :=
  fault = fault' ∨
    ∃ text candidates candidates',
      fault = .ambiguous text candidates ∧
        fault' = .ambiguous text candidates' ∧
        candidates.length = candidates'.length

section Applying

variable
  {rule respelled : TypeRule}

/-- Rendering types comes to one text for each of them. -/
theorem yields_resolveAll
    (resolvePart : CppType → Resolving String)
    (types : List CppType) :
    Yields (resolveAll resolvePart types)
      (List.Forall₂ (fun type text => ComesTo (resolvePart type) text) types) := by
  induction types with
  | nil => exact .pure .nil
  | cons type rest inductionHypothesis =>
      have first : Yields (resolvePart type) (ComesTo (resolvePart type)) :=
        fun _ comesTo => comesTo
      exact first.bind_of_yields fun text comesTo =>
        inductionHypothesis.bind_of_yields fun texts each => .pure (.cons comesTo each)

theorem length_referred
    (rule : TypeRule)
    (bindings : Bindings)
    (parameters : List String) :
    (referred rule bindings parameters).length =
      ((parameters.filter (refersTo rule)).filterMap bindings.get?).length := by
  rw [referred, List.length_filterMap_eq_countP, List.countP_filter, List.countP_eq_length_filter]
  simp [Bool.and_comm]

/-- Applying a rule or its respelling comes to the same, if parts do and fill in alike. -/
theorem agree_applyRule_respelled
    (alike : rule.Renaming respelled)
    {bindings bindings' : Bindings}
    (bound : InstantiateAlike rule respelled bindings bindings')
    {SameFault : Fault → Fault → Prop}
    {one other : CppType → Resolving String}
    (parts :
      ∀ part ∈ (RuleChoice.applied rule bindings).parts, Agree SameFault (one part) (other part))
    (atOnce :
      ∀ replacements,
        ComesTo (renderBindings one rule bindings rule.parameters) replacements →
        ∀ text ∈ rule.texts, fill replacements text = fillAtOnce replacements text)
    (atOnce' :
      ∀ replacements,
        ComesTo (renderBindings other respelled bindings' respelled.parameters) replacements →
        ∀ text ∈ respelled.texts, fill replacements text = fillAtOnce replacements text) :
    Agree SameFault (applyRule one rule bindings) (applyRule other respelled bindings') := by
  have order := alike.respelling.forall₂_parameters
  rw [applyRule, applyRule]
  rw [renderBindings_eq] at atOnce ⊢
  rw [renderBindings_eq, ← filterMap_referred_eq alike bound order] at atOnce' ⊢
  simp only [bind_assoc, pure_bind]
  refine (Agree.resolveAll parts).bind_of_comesTo fun texts comesTo comesTo' => ?_
  have complete := (length_referred rule bindings rule.parameters).trans
    (yields_resolveAll one _ texts comesTo).length_eq
  have filled :
      ∀ text ∈ rule.texts, ∀ text' ∈ respelled.texts,
        SameText rule respelled text text' →
        fill (replacing (referred rule bindings rule.parameters) texts) text =
          fill (replacing (referred respelled bindings' respelled.parameters) texts) text' := by
    intro text member text' member' sameText
    rw [atOnce _ comesTo.map text member, atOnce' _ comesTo'.map text' member']
    exact fillAtOnce_eq alike bound complete member sameText
  have sameFilled := Specificity.forall₂_iff_map_eq.mp
    (Specificity.forall₂_imp_of_mem filled alike.forall₂_texts)
  rw [TypeRule.texts, TypeRule.texts, List.map_cons, List.map_cons, List.cons.injEq] at sameFilled
  rw [sameFilled.1, sameFilled.2]
  exact (Agree.declareAll _).bind fun _ => .pure _

/-- What one computation comes to, the other one does as well, with the same prelude. -/
def Below
    {Value : Type}
    (one other : Resolving Value) :
    Prop :=
  ∀ prelude value after, one prelude = .ok value after → other prelude = .ok value after

theorem Below.bind
    {Value Result : Type}
    {one other : Resolving Value}
    {next next' : Value → Resolving Result}
    (first : Below one other)
    (second : ∀ value, Below (next value) (next' value)) :
    Below (one >>= next) (other >>= next') := by
  intro prelude result after outcome
  simp only [Bind.bind, EStateM.bind] at outcome ⊢
  cases inner : one prelude with
  | ok value between =>
      rw [inner] at outcome
      rw [first prelude value between inner]
      exact second value between result after outcome
  | error fault between =>
      rw [inner] at outcome
      cases outcome

theorem below_resolveAll
    {one other : CppType → Resolving String}
    (parts : ∀ part, Below (one part) (other part))
    (types : List CppType) :
    Below (resolveAll one types) (resolveAll other types) := by
  induction types with
  | nil => exact fun _ _ _ outcome => outcome
  | cons type rest inductionHypothesis =>
      exact (parts type).bind fun _ => inductionHypothesis.bind fun _ _ _ _ outcome => outcome

theorem comesTo_renderBindings
    {one other : CppType → Resolving String}
    (parts : ∀ part, Below (one part) (other part))
    {bindings : Bindings}
    {parameters : List String}
    {replacements : List (List Char × List Char)}
    (comesTo : ComesTo (renderBindings one rule bindings parameters) replacements) :
    ComesTo (renderBindings other rule bindings parameters) replacements := by
  rw [renderBindings_eq] at comesTo ⊢
  obtain ⟨prelude, after, outcome⟩ := comesTo
  refine .intro ((below_resolveAll parts _).bind (fun _ _ _ _ outcome => outcome) _ _ _ outcome)

theorem below_resolveSmaller
    (context : ResolutionScope)
    (type part : CppType) :
    Below (resolveSmaller context type part) (resolve context part) := by
  intro prelude value after outcome
  rw [resolveSmaller] at outcome
  split at outcome
  · exact outcome
  · cases outcome

end Applying

/-- A rule fills in at once what is rendered without opening braces, if its texts have none beside
those of references. -/
theorem fillsAtOnce_of_unopened
    {rule : TypeRule}
    (respellable : rule.Respellable)
    (tidy : ∀ text ∈ rule.texts, .symbol '\x7b' ∉ pieces text.toList)
    {context : ResolutionScope}
    {type : CppType}
    (unopened :
      ∀ part ∈ parts context.model type,
        Yields (resolve context part) fun text => '\x7b' ∉ text.toList) :
    FillsAtOnce rule context type := by
  intro bindings replacements unnamed chosen comesTo text member
  have rendered :
      Yields (renderBindings (resolve context) rule bindings rule.parameters) fun replacements =>
        ∃ texts,
          List.Forall₂ (fun part text => ComesTo (resolve context part) text)
              (RuleChoice.applied rule bindings).parts texts ∧
            replacements = replacing (referred rule bindings rule.parameters) texts := by
    rw [renderBindings_eq]
    exact (yields_resolveAll _ _).bind_of_yields fun texts each => .pure ⟨texts, each, rfl⟩
  obtain ⟨texts, each, rfl⟩ := rendered replacements comesTo
  have isPart :
      ∀ part ∈ (RuleChoice.applied rule bindings).parts, part ∈ parts context.model type :=
    fun part inChoice => mem_parts_of_mem_choice unnamed (chosen ▸ inChoice)
  refine fill_eq_fillAtOnce (fun replacement filled => ?_) (fun replacement filled => ?_)
    (tidy text member)
  · obtain ⟨name, isReferred, _, _, rfl⟩ := mem_replacing filled
    exact ⟨name, respellable.braceless (List.mem_of_mem_filter isReferred), rfl⟩
  · obtain ⟨_, _, inserted, isText, rfl⟩ := mem_replacing filled
    obtain ⟨position, inRange, rfl⟩ := List.getElem_of_mem isText
    have atPosition := each.get (each.length_eq ▸ inRange) inRange
    have noneOpens := unopened _ (isPart _ (List.get_mem _ _)) _ atPosition
    exact fun character isInserted opens => noneOpens (opens ▸ isInserted)

/-! ## Models that store one rule or the other -/

/-- A model with a rule in a place of one of its buckets. -/
def storing
    (model : BindingModel)
    (key : String)
    (before after : List TypeRule)
    (rule : TypeRule) :
    BindingModel :=
  { model with rules := model.rules.insert key (before ++ rule :: after) }

section Storing

variable
  {rule respelled : TypeRule}
  (alike : rule.Renaming respelled)
  (model : BindingModel)
  (key : String)
  (before after : List TypeRule)

theorem forall₂_rulesFor_storing
    (name : String) :
    List.Forall₂ (Respelled rule respelled) ((storing model key before after rule).rulesFor name)
      ((storing model key before after respelled).rulesFor name) := by
  have unchanged : ∀ rules, List.Forall₂ (Respelled rule respelled) rules rules :=
    fun rules => List.forall₂_same.mpr fun other _ => .same other
  have buckets :
      ∀ other,
        List.Forall₂ (Respelled rule respelled)
          ((storing model key before after rule).bucket other)
          ((storing model key before after respelled).bucket other) := by
    intro other
    rw [storing, storing, BindingModel.bucket_insert, BindingModel.bucket_insert]
    split
    · exact List.rel_append (unchanged before) (.cons .respelled (unchanged after))
    · exact unchanged _
  rw [BindingModel.rulesFor_eq_append, BindingModel.rulesFor_eq_append]
  exact List.rel_append (buckets name) (buckets _)

include alike

theorem choice_storing
    (type : CppType) :
    ChoiceRespelled rule respelled
      (chooseRule ((storing model key before after rule).rulesFor type.name) type)
      (chooseRule ((storing model key before after respelled).rulesFor type.name) type) :=
  chooseRule_respelled alike.respelling (forall₂_rulesFor_storing model key before after _) type

/-- A type has the same parts, whichever of the rules is stored. -/
theorem parts_storing_eq
    (type : CppType) :
    parts (storing model key before after rule) type =
      parts (storing model key before after respelled) type := by
  have sameEntity :
      isEntity (storing model key before after rule) type =
        isEntity (storing model key before after respelled) type :=
    rfl
  have chosen := choice_storing alike model key before after type
  rw [parts, parts, sameEntity]
  generalize chooseRule ((storing model key before after rule).rulesFor type.name) type = choice
    at chosen ⊢
  generalize chooseRule ((storing model key before after respelled).rulesFor type.name) type =
    choice' at chosen ⊢
  split
  · rfl
  · cases chosen with
    | unmatched => rfl
    | ambiguous candidates => rfl
    | applied entries =>
        cases entries with
        | same entry => rfl
        | respelled bound =>
            exact filterMap_referred_eq alike bound alike.respelling.forall₂_parameters

end Storing

/--
Two rules with the same canonical form and with their parameters in the same order lead to the same
text and prelude or to the same kind of fault, whichever is stored, as long as each fills in its
placeholders as if all at once wherever it is applied.
-/
theorem resolve_ignores_parameter_names
    {model : BindingModel}
    {key : String}
    {before after : List TypeRule}
    {rule respelled : TypeRule}
    (sameForm : rule.canonicalForm = respelled.canonicalForm)
    (sameOrder :
      rule.parameters.map rule.positionalNames.get? =
        respelled.parameters.map respelled.positionalNames.get?)
    (respellable : rule.Respellable)
    (respellable' : respelled.Respellable)
    (scope : Option String)
    (type : CppType)
    (atOnce :
      ∀ part,
        Reaches (storing model key before after rule) type part →
        FillsAtOnce rule { model := storing model key before after rule, scope } part)
    (atOnce' :
      ∀ part,
        Reaches (storing model key before after respelled) type part →
        FillsAtOnce respelled { model := storing model key before after respelled, scope } part) :
    Agree SameKind (resolve { model := storing model key before after rule, scope } type)
      (resolve { model := storing model key before after respelled, scope } type) := by
  have alike : rule.Renaming respelled := ⟨sameForm, sameOrder, respellable, respellable'⟩
  induction type using resolve.induct { model := storing model key before after rule, scope } with
  | case1 type inductionHypothesis =>
      have each :
          ∀ part ∈ parts (storing model key before after rule) type,
            Agree SameKind
              (resolveSmaller { model := storing model key before after rule, scope } type part)
              (resolveSmaller { model := storing model key before after respelled, scope } type
                part) := by
        intro part member
        have member' := member
        rw [parts_storing_eq alike] at member'
        refine .resolveSmaller (fun smaller => ?_) (.inl rfl)
        exact inductionHypothesis part smaller
          (fun further reaches => atOnce further (.head member reaches))
          (fun further reaches => atOnce' further (.head member' reaches))
      rw [resolve_eq, resolve_eq]
      refine .resolveBy (.refl fun _ => .inl rfl) (fun unnamed => ?_) each
      have chosenEach := fun part member => each part (mem_parts_of_mem_choice unnamed member)
      have chosen := choice_storing alike model key before after type
      rw [byRules?_eq, byRules?_eq]
      generalize isChosen :
        chooseRule ((storing model key before after rule).rulesFor type.name) type = choice
        at chosen chosenEach ⊢
      generalize isChosen' :
        chooseRule ((storing model key before after respelled).rulesFor type.name) type = choice'
        at chosen ⊢
      cases chosen with
      | unmatched => exact .pure none
      | ambiguous candidates =>
          refine .throw (.inr ⟨_, _, _, rfl, rfl, ?_⟩)
          rw [List.length_map, List.length_map, candidates.length_eq]
      | applied entries =>
          cases entries with
          | same entry =>
              exact (Agree.applyRule chosenEach).bind fun _ => .pure _
          | respelled bound =>
              refine (agree_applyRule_respelled alike bound chosenEach ?_ ?_).bind fun _ => .pure _
              · intro replacements comesTo
                exact atOnce type .refl _ replacements unnamed isChosen
                  (comesTo_renderBindings (below_resolveSmaller _ type) comesTo)
              · intro replacements comesTo
                exact atOnce' type .refl _ replacements unnamed isChosen'
                  (comesTo_renderBindings (below_resolveSmaller _ type) comesTo)

/-- A rule for pairs, with two parameters that are both shown. -/
def tupleRule
    (first second : String) :
    TypeRule where
  pattern := .applied "Pair" [.plain first, .plain second]
  rendering :=
    "tuple[" ++ String.ofList (placeholder first) ++ ", " ++ String.ofList (placeholder second)
      ++ "]"
  parameters := [first, second]
  declarations := []
  location := Location.unknown

/-- It does not matter whether the rule for pairs names its parameters in one way or in another. -/
theorem resolve_ignores_parameter_names_of_pairs :
    let rule := tupleRule "T" "U"
    let respelled := tupleRule "A" "B"
    let type : CppType := .applied "Pair" [.plain "int", .plain "bool"]
    Agree SameKind (resolve { model := storing {} "Pair" [] [] rule } type)
        (resolve { model := storing {} "Pair" [] [] respelled } type) ∧
      resolve { model := storing {} "Pair" [] [] rule } type [] = .ok "tuple[int, bool]" [] := by
  intro rule respelled type
  let types : List CppType := [type, .plain "int", .plain "bool"]
  have noneBare :
      ∀ other ∈ [rule, respelled],
        ∀ stored ∈ (storing {} "Pair" [] [] other).allRules, ¬ stored.IsBare := by
    decide +kernel
  have closed :
      ∀ other ∈ [rule, respelled],
        ∀ part ∈ types, parts (storing {} "Pair" [] [] other) part ⊆ types.tail := by
    decide +kernel
  have unopened :
      ∀ other ∈ [rule, respelled],
        ∀ part ∈ types.tail,
          Yields (resolve { model := storing {} "Pair" [] [] other } part) fun text =>
            '\x7b' ∉ text.toList := by
    intro other isRule part isPart text comesTo
    obtain ⟨prelude, after, outcome⟩ := comesTo
    have evaluated :
        ∃ shown ∈ ["int", "bool"],
          resolveWithin (fun _ => pure "") { model := storing {} "Pair" [] [] other } 10 part
            prelude = .ok shown prelude := by
      rcases List.mem_pair.mp isRule with rfl | rfl
      · rcases List.mem_pair.mp isPart with rfl | rfl
        · exact ⟨"int", .head _, rfl⟩
        · exact ⟨"bool", .tail _ (.head _), rfl⟩
      · rcases List.mem_pair.mp isPart with rfl | rfl
        · exact ⟨"int", .head _, rfl⟩
        · exact ⟨"bool", .tail _ (.head _), rfl⟩
    obtain ⟨shown, isShown, evaluated⟩ := evaluated
    have enough : ∀ part ∈ types.tail, weight part < 10 := by decide +kernel
    rw [resolve_of_resolveWithin (noneBare other isRule) (enough part isPart) evaluated] at outcome
    cases outcome
    have noneOpens : ∀ shown ∈ ["int", "bool"], '\x7b' ∉ shown.toList := by decide +kernel
    exact noneOpens _ isShown
  have atOnce :
      ∀ other ∈ [rule, respelled],
        ∀ part,
          Reaches (storing {} "Pair" [] [] other) type part →
          FillsAtOnce other { model := storing {} "Pair" [] [] other } part := by
    intro other isRule part reaches
    have respellable : ∀ other ∈ [rule, respelled], other.Respellable := by decide +kernel
    have tidy :
        ∀ other ∈ [rule, respelled],
          ∀ text ∈ other.texts, .symbol '\x7b' ∉ pieces text.toList := by
      decide +kernel
    have among : part ∈ types :=
      mem_of_reaches
        (fun listed isListed _ isPart => .tail _ (closed other isRule listed isListed isPart))
        (.head _) reaches
    exact fillsAtOnce_of_unopened (respellable other isRule) (tidy other isRule)
      fun further isPart => unopened other isRule further (closed other isRule part among isPart)
  refine ⟨?_, ?_⟩
  · exact resolve_ignores_parameter_names (by decide +kernel) (by decide +kernel)
      (by decide +kernel) (by decide +kernel) none type (atOnce rule (.head _))
      (atOnce respelled (.tail _ (.head _)))
  · have enough : weight type < 20 := by decide +kernel
    have evaluated :
        resolveWithin (fun _ => pure "") { model := storing {} "Pair" [] [] rule } 20 type [] =
          .ok "tuple[int, bool]" [] := by
      decide +kernel
    exact resolve_of_resolveWithin (noneBare rule (.head _)) enough evaluated

/-- A rule for one type, whose rendering looks as if it referred to a parameter. -/
def holderRule : TypeRule where
  pattern := .plain "Holder"
  rendering := "Literal['\x7bU\x7d']"
  parameters := []
  declarations := []
  location := Location.unknown

/-- The models that render pairs and the holder. -/
def holders
    (rule : TypeRule) :
    BindingModel :=
  storing { rules := ⟨[("Holder", [holderRule])]⟩ } "Pair" [] [] rule

/-- What the first parameter is rendered as is taken for a reference to the second one, if that one
has the name that stands there. -/
theorem rendering_captured_by_parameter_name :
    let rule := tupleRule "T" "U"
    let respelled := tupleRule "A" "B"
    let type : CppType := .applied "Pair" [.plain "Holder", .plain "int"]
    rule.canonicalForm = respelled.canonicalForm ∧
      rule.parameters.length = respelled.parameters.length ∧
      (∀ parameter ∈ rule.parameters ++ respelled.parameters, Markless parameter) ∧
      resolve { model := holders rule } type [] = .ok "tuple[Literal['int'], int]" [] ∧
      resolve { model := holders respelled } type [] =
        .ok "tuple[Literal['\x7bU\x7d'], int]" [] := by
  intro rule respelled type
  have enough : weight type < 30 := by decide +kernel
  have noneBare : ∀ stored ∈ (holders rule).allRules, ¬ stored.IsBare := by decide +kernel
  have noneBare' : ∀ stored ∈ (holders respelled).allRules, ¬ stored.IsBare := by decide +kernel
  have evaluated :
      resolveWithin (fun _ => pure "") { model := holders rule } 30 type [] =
        .ok "tuple[Literal['int'], int]" [] := by
    decide +kernel
  have evaluated' :
      resolveWithin (fun _ => pure "") { model := holders respelled } 30 type [] =
        .ok "tuple[Literal['\x7bU\x7d'], int]" [] := by
    decide +kernel
  exact ⟨by decide +kernel, rfl, by decide +kernel,
    resolve_of_resolveWithin noneBare enough evaluated,
    resolve_of_resolveWithin noneBare' enough evaluated'⟩

end Resolution

end BindingStubs
