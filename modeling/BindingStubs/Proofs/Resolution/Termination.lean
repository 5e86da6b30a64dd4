import BindingStubs.Proofs.CppType.Weight
import BindingStubs.Proofs.Model.RuleBuckets
import BindingStubs.Proofs.Resolution.Simulation

namespace BindingStubs

/-!
# Resolution ends

Every part that resolution turns to has fewer visible characters than the type, unless a rule
leads from a type to itself because its pattern is nothing but a parameter.  Without such rules
the guard against endless rules never acts, and the calls are nested no deeper than the type has
visible characters.
-/

/-- A rule whose pattern is a parameter, without arguments and pointer marks. -/
structure TypeRule.IsBare
    (rule : TypeRule) : Prop where
  plain : rule.pattern.arguments? = none
  unmarked : rule.pattern.pointerDepth = 0
  isParameter : rule.pattern.baseName ∈ rule.parameters

instance
    (rule : TypeRule) :
    Decidable rule.IsBare :=
  decidable_of_iff
    (rule.pattern.arguments? = none ∧ rule.pattern.pointerDepth = 0 ∧
      rule.pattern.baseName ∈ rule.parameters)
    ⟨fun ⟨plain, unmarked, isParameter⟩ => ⟨plain, unmarked, isParameter⟩,
      fun ⟨plain, unmarked, isParameter⟩ => ⟨plain, unmarked, isParameter⟩⟩

namespace Resolution

/-! ## Parts are smaller -/

theorem weight_pointerTo
    (type : CppType) :
    weight type.pointerTo = weight type + 1 :=
  CppType.visibleCount_spell_pointerTo type

theorem weight_addPointers
    (type : CppType)
    (levels : Nat) :
    weight (type.addPointers levels) = weight type + levels :=
  CppType.visibleCount_spell_addPointers type levels

theorem weight_argument_lt
    {name : String}
    {arguments : List CppType}
    {argument : CppType}
    (member : argument ∈ arguments) :
    weight argument < weight (.applied name arguments) :=
  CppType.visibleCount_argument_lt member

/-- What a name in a pattern is bound to is no larger than what becomes of the pattern, and is
smaller unless the pattern is the name. -/
theorem weight_bound
    {bindings : Bindings}
    {name : String}
    {bound pattern : CppType}
    (found : bindings.get? name = some bound)
    (stands : Matching.Stands name pattern) :
    weight bound < weight (pattern.substitute bindings) ∨
      pattern.arguments? = none ∧ pattern.pointerDepth = 0 ∧ pattern.baseName = name ∧
        pattern.substitute bindings = bound := by
  induction pattern using CppType.recurse with
  | plain other =>
      rw [Matching.stands_plain_iff] at stands
      rw [CppType.substitute_plain, stands, Bindings.image, found, Option.getD_some,
        weight_addPointers]
      cases levels : (CppType.plain other).pointerDepth with
      | zero => exact .inr ⟨rfl, rfl, rfl, rfl⟩
      | succ fewer => exact .inl (by omega)
  | applied other arguments inductionHypothesis =>
      obtain ⟨argument, member, standsInside⟩ := Matching.stands_applied_iff.mp stands
      have inside : argument.substitute bindings ∈ CppType.substituteList bindings arguments := by
        rw [CppType.substituteList_eq_map]
        exact List.mem_map_of_mem member
      have smaller :
          weight (argument.substitute bindings) <
            weight (.applied other (CppType.substituteList bindings arguments)) :=
        weight_argument_lt inside
      rw [CppType.substitute]
      rcases inductionHypothesis argument member standsInside with less | ⟨_, _, _, same⟩
      · exact .inl (Nat.lt_trans less smaller)
      · exact .inl (same ▸ smaller)

/-- What a rule binds in a match is smaller than the type, unless the rule is bare. -/
theorem weight_lt_of_match
    {rule : TypeRule}
    {type bound : CppType}
    {bindings : Bindings}
    {parameter : String}
    (notBare : ¬ rule.IsBare)
    (matched : Matching.match? rule.parameters rule.pattern type = some bindings)
    (found : bindings.get? parameter = some bound) :
    weight bound < weight type := by
  have unified := Matching.match?_eq_some_iff.mp matched
  have emptyWithin : Bindings.Within rule.parameters {} := by
    intro name isBound
    simp at isBound
  have instantiated := Matching.unify_sound emptyWithin unified
  have isBound : (bindings.get? parameter).isSome := found ▸ rfl
  rw [Matching.isSome_get?_unify unified] at isBound
  obtain ⟨isParameter, stands⟩ := isBound.resolve_left (by simp)
  have same := instantiated.substituted bindings (.refl bindings) instantiated.within
  rcases weight_bound found stands with smaller | ⟨plain, unmarked, named, _⟩
  · exact same ▸ smaller
  · exact absurd ⟨plain, unmarked, named ▸ isParameter⟩ notBare

theorem weight_lt_of_mem_choice
    {rules : List TypeRule}
    (noneBare : ∀ rule ∈ rules, ¬ rule.IsBare)
    {type part : CppType}
    (member : part ∈ (chooseRule rules type).parts) :
    weight part < weight type := by
  cases chosen : chooseRule rules type with
  | unmatched =>
      rw [chosen] at member
      cases member
  | ambiguous candidates =>
      rw [chosen] at member
      cases member
  | applied rule bindings =>
      rw [chosen] at member
      obtain ⟨parameter, _, found⟩ := List.mem_filterMap.mp member
      obtain ⟨candidate, ⟨_, _, rfl⟩ | ⟨_, matched⟩⟩ := chooseRule_eq_applied chosen
      · cases found
      · exact weight_lt_of_match (noneBare rule candidate) matched found

theorem weight_lt_of_mem_argument?
    {type argument : CppType}
    {index : Nat}
    (found : argument ∈ (type.argument? index).toList) :
    weight argument < weight type := by
  rw [Option.mem_toList] at found
  cases type with
  | plain name => cases found
  | applied name arguments => exact weight_argument_lt (List.mem_of_getElem? found)

theorem weight_lt_of_mem_arguments
    {type argument : CppType}
    (member : argument ∈ type.arguments?.getD []) :
    weight argument < weight type := by
  cases type with
  | plain name => cases member
  | applied name arguments => exact weight_argument_lt member

theorem weight_lt_of_mem_shapeParts
    {type part : CppType}
    {shape : Builtin.Shape}
    {found : List CppType}
    (isFound : shapeParts? type shape = some found)
    (member : part ∈ found) :
    weight part < weight type := by
  cases shape with
  | text | complex =>
      cases isFound
      cases member
  | sequence | set | optional | pointee =>
      cases isFound
      exact weight_lt_of_mem_argument? member
  | mapping =>
      cases isFound
      rcases List.mem_append.mp member with isKey | isValue
      · exact weight_lt_of_mem_argument? isKey
      · exact weight_lt_of_mem_argument? isValue
  | tuple | union =>
      cases isFound
      exact weight_lt_of_mem_arguments member
  | function =>
      obtain ⟨function, split, rfl⟩ := Option.map_eq_some_iff.mp isFound
      obtain ⟨argument, isArgument, spelled⟩ := Option.bind_eq_some_iff.mp split
      have outer : weight argument < weight type :=
        weight_lt_of_mem_argument? (Option.mem_toList.mpr isArgument)
      obtain ⟨returns, parameters⟩ := FunctionType.visibleCount_le_of_split? spelled
      have read :
          ∀ piece, Text.visibleCount piece ≤ weight argument →
            weight (CppType.parse piece) < weight type := fun piece inner =>
        Nat.lt_of_le_of_lt ((CppType.visibleCount_spell_parse_le piece).trans inner) outer
      rcases List.mem_append.mp member with isParameter | isReturn
      · obtain ⟨piece, isPiece, rfl⟩ := List.mem_map.mp isParameter
        exact read piece (parameters piece isPiece)
      · rw [List.mem_singleton.mp isReturn]
        exact read _ returns

theorem weight_lt_of_mem_builtinParts
    {type part : CppType}
    {found : List CppType}
    (isFound : builtinParts? type = some found)
    (member : part ∈ found) :
    weight part < weight type := by
  cases type with
  | plain name =>
      obtain ⟨_, _, rfl⟩ := Option.map_eq_some_iff.mp isFound
      cases member
  | applied name arguments =>
      simp only [builtinParts?] at isFound
      split at isFound
      · cases isFound
      · obtain ⟨shape, _, shaped⟩ := Option.bind_eq_some_iff.mp isFound
        exact weight_lt_of_mem_shapeParts shaped member

/-- Every type that resolution turns to is smaller, if no rule is bare. -/
theorem weight_lt_of_mem_parts
    {model : BindingModel}
    (noneBare : ∀ rule ∈ model.allRules, ¬ rule.IsBare)
    {type part : CppType}
    (member : part ∈ parts model type) :
    weight part < weight type := by
  rw [parts] at member
  split at member
  · cases member
  · split at member
    · cases found : builtinParts? type with
      | some inside =>
          rw [found] at member
          exact weight_lt_of_mem_builtinParts found member
      | none =>
          rw [found, Option.getD_none, Option.mem_toList] at member
          rw [CppType.pointee?_eq_some_iff.mp member, weight_pointerTo]
          exact Nat.lt_succ_self _
    · have noCandidateBare : ∀ rule ∈ model.rulesFor type.name, ¬ rule.IsBare :=
        fun rule candidate => noneBare rule (BindingModel.mem_allRules_of_mem_rulesFor candidate)
      exact weight_lt_of_mem_choice noCandidateBare member

/-! ## Resolution without a guard -/

/-- Resolution whose calls are nested down to a number of levels, below which another computation
takes over. -/
def resolveWithin
    (exhausted : CppType → Resolving String)
    (context : ResolutionScope) :
    Nat → CppType → Resolving String
  | 0 => exhausted
  | levels + 1 => resolveBy (resolveWithin exhausted context levels) context

/-- The same fault, which is not that of an endless rule. -/
def SameEnding
    (fault fault' : Fault) :
    Prop :=
  fault = fault' ∧ ∀ name, fault ≠ .endless name

theorem SameEnding.refl_of_ne
    {fault : Fault}
    (ends : ∀ name, fault ≠ .endless name) :
    SameEnding fault fault :=
  ⟨rfl, ends⟩

/-- One step ends alike, however its parts are rendered, if they end alike. -/
theorem agree_resolveBy
    {one other : CppType → Resolving String}
    {context : ResolutionScope}
    {type : CppType}
    (each : ∀ part ∈ parts context.model type, Agree SameEnding (one part) (other part)) :
    Agree SameEnding (resolveBy one context type) (resolveBy other context type) := by
  have names : Agree SameEnding (entityName? context type) (entityName? context type) := by
    refine .refl fun refused => ?_
    obtain ⟨reason, rfl⟩ := exists_reason_of_entityName? refused
    exact .refl_of_ne nofun
  refine .resolveBy names (fun unnamed => ?_) each
  refine (SameChoice.refl (fun _ _ => .refl_of_ne nofun) type _).agree_byRules?
    fun part member => ?_
  exact each part (mem_parts_of_mem_choice unnamed member)

theorem Agree.eq_of_sameEnding
    {Value : Type}
    {one other : Resolving Value}
    (agree : Agree SameEnding one other) :
    one = other := by
  funext prelude
  have related := agree prelude
  generalize one prelude = outcome at related
  generalize other prelude = outcome' at related
  cases related with
  | ok value after => rfl
  | error after same => rw [same.1]

section Ending

variable
  {context : ResolutionScope}
  (noneBare : ∀ rule ∈ context.model.allRules, ¬ rule.IsBare)

include noneBare

theorem agree_resolveWithin
    (exhausted : CppType → Resolving String)
    {levels : Nat}
    {type : CppType}
    (enough : weight type < levels) :
    Agree SameEnding (resolveWithin exhausted context levels type) (resolve context type) := by
  induction levels generalizing type with
  | zero => exact absurd enough (Nat.not_lt_zero _)
  | succ levels inductionHypothesis =>
      rw [resolveWithin, resolve_eq]
      refine agree_resolveBy fun part member => ?_
      have smaller := weight_lt_of_mem_parts noneBare member
      rw [resolveSmaller_of_lt context smaller]
      exact inductionHypothesis (Nat.lt_of_lt_of_le smaller (Nat.le_of_lt_succ enough))

theorem resolveWithin_eq_resolve
    (exhausted : CppType → Resolving String)
    {levels : Nat}
    {type : CppType}
    (enough : weight type < levels) :
    resolveWithin exhausted context levels type = resolve context type :=
  (agree_resolveWithin noneBare exhausted enough).eq_of_sameEnding

/-- A type resolves to what it is evaluated to with enough levels. -/
theorem resolve_of_resolveWithin
    {levels : Nat}
    {type : CppType}
    (enough : weight type < levels)
    {exhausted : CppType → Resolving String}
    {prelude : List String}
    {outcome : EStateM.Result Fault (List String) String}
    (evaluated : resolveWithin exhausted context levels type prelude = outcome) :
    resolve context type prelude = outcome := by
  rw [← resolveWithin_eq_resolve noneBare exhausted enough, evaluated]

/-- Resolution ends, and not because the guard acts. -/
theorem agree_resolve_self
    (type : CppType) :
    Agree SameEnding (resolve context type) (resolve context type) := by
  have agree := agree_resolveWithin noneBare (resolve context) (Nat.lt_succ_self (weight type))
  rwa [resolveWithin_eq_resolve noneBare _ (Nat.lt_succ_self (weight type))] at agree

theorem resolve_eq_resolveBy
    (type : CppType) :
    resolve context type = resolveBy (resolve context) context type := by
  have agree :
      Agree SameEnding (resolveBy (resolveSmaller context type) context type)
        (resolveBy (resolve context) context type) := by
    refine agree_resolveBy fun part member => ?_
    rw [resolveSmaller_of_lt context (weight_lt_of_mem_parts noneBare member)]
    exact agree_resolve_self noneBare part
  rw [resolve_eq, agree.eq_of_sameEnding]

end Ending

/--
Without a rule whose pattern is a parameter and nothing else, resolution is its own step with no
guard, it needs no more nested calls than a type has visible characters, and it ends with a text
or a fault that is not that of an endless rule.
-/
theorem resolve_ends
    {context : ResolutionScope}
    (noneBare : ∀ rule ∈ context.model.allRules, ¬ rule.IsBare)
    (type : CppType) :
    resolve context type = resolveBy (resolve context) context type ∧
      (∀ exhausted levels,
        weight type < levels →
        resolveWithin exhausted context levels type = resolve context type) ∧
      ∀ prelude,
        (∃ text after, resolve context type prelude = .ok text after) ∨
          ∃ fault after,
            resolve context type prelude = .error fault after ∧ ∀ name, fault ≠ .endless name := by
  refine ⟨resolve_eq_resolveBy noneBare type,
    fun exhausted levels => resolveWithin_eq_resolve noneBare exhausted, fun prelude => ?_⟩
  have ending := agree_resolve_self noneBare type prelude
  cases outcome : resolve context type prelude with
  | ok text after => exact .inl ⟨text, after, rfl⟩
  | error fault after =>
      rw [outcome] at ending
      cases ending with
      | error _ same => exact .inr ⟨fault, after, rfl, same.2⟩

/-- A rule for all pointers. -/
def pointerRule : TypeRule where
  pattern := .plain "T*"
  rendering := "\x7bT\x7d | None"
  parameters := ["T"]
  declarations := []
  location := Location.unknown

/-- A function type is taken apart into types that the rule for pointers leads on from. -/
theorem resolve_ends_for_function_of_pointers :
    let context : ResolutionScope :=
      { model := { rules := ⟨[(pointerRule.bucketKey, [pointerRule])]⟩ } }
    let callback : CppType :=
      .applied "std::function" [.plain "Box<char>* (std::vector<int*>, const bool&)"]
    (∀ rule ∈ context.model.allRules, ¬ rule.IsBare) ∧
      weight callback = 55 ∧
      resolve context callback [] =
        .ok "Callable[[list[int | None], bool], Box<char> | None]"
          ["from collections.abc import Callable"] := by
  intro context callback
  have noneBare : ∀ rule ∈ context.model.allRules, ¬ rule.IsBare := by decide +kernel
  have isWeight : weight callback = 55 := by decide +kernel
  have enough : weight callback < 56 := by rw [isWeight]; decide
  refine ⟨noneBare, isWeight, ?_⟩
  rw [← (resolve_ends noneBare callback).2.1 (fun part => throw (.endless part.text)) 56 enough]
  decide +kernel

end Resolution

end BindingStubs
