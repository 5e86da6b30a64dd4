import BindingStubs.Proofs.Model.RuleBuckets
import BindingStubs.Proofs.Resolution.Specificity
import Mathlib.Data.List.Forall2

namespace BindingStubs

/-!
# Rules that cover each other

Two rules that cover each other have the same pattern but for the names of their parameters: where
one has a parameter, the other has one under as many pointer levels, and elsewhere they are the
same.  Which parameters stand in the same places is a relation between names that is unique in both
directions, so that naming parameters by the order of their first occurrence makes the patterns
equal.
-/

/-- A rule whose parameters are distinct and all occur, each only as nodes without arguments, and
which uses no name that begins with the mark of positional names. -/
structure TypeRule.Regular
    (rule : TypeRule) : Prop where
  distinct : rule.parameters.Nodup
  occurs :
    ∀ parameter ∈ rule.parameters,
      ∃ node ∈ rule.pattern.nodes, node.arguments? = none ∧ node.baseName = parameter
  unapplied :
    ∀ node ∈ rule.pattern.nodes, node.arguments?.isSome → node.baseName ∉ rule.parameters
  unmarked : ∀ node ∈ rule.pattern.nodes, ¬ ['$'] <+: node.name.toList

instance
    (rule : TypeRule) :
    Decidable rule.Regular :=
  decidable_of_iff
    (rule.parameters.Nodup ∧
      (∀ parameter ∈ rule.parameters,
        ∃ node ∈ rule.pattern.nodes, node.arguments? = none ∧ node.baseName = parameter) ∧
      (∀ node ∈ rule.pattern.nodes,
        node.arguments?.isSome → node.baseName ∉ rule.parameters) ∧
      ∀ node ∈ rule.pattern.nodes, ¬ ['$'] <+: node.name.toList)
    ⟨fun ⟨distinct, occurs, unapplied, unmarked⟩ => ⟨distinct, occurs, unapplied, unmarked⟩,
      fun ⟨distinct, occurs, unapplied, unmarked⟩ => ⟨distinct, occurs, unapplied, unmarked⟩⟩

namespace Specificity

/-! ## Parameters that stand for each other -/

theorem fixedNames_injective
    {rule : TypeRule}
    {first second fixed : String}
    (firstFixed : (fixedNames rule).get? first = some fixed)
    (secondFixed : (fixedNames rule).get? second = some fixed) :
    first = second := by
  obtain ⟨position, firstMember, rfl⟩ := exists_position_of_get?_fixedNames firstFixed
  obtain ⟨other, secondMember, same⟩ := exists_position_of_get?_fixedNames secondFixed
  rw [fixedName_injective same, List.mk_mem_zipIdx_iff_getElem?] at firstMember
  rw [List.mk_mem_zipIdx_iff_getElem?] at secondMember
  exact Option.some.inj (firstMember.symm.trans secondMember)

/-- Parameters of two rules, each of which is bound to the other while that is held fixed. -/
structure Correspond
    (first second : TypeRule)
    (forth back : Bindings)
    (parameter counterpart : String) : Prop where
  forth :
    ∃ fixed,
      (fixedNames second).get? counterpart = some fixed ∧ forth.image parameter = .plain fixed
  back :
    ∃ fixed,
      (fixedNames first).get? parameter = some fixed ∧ back.image counterpart = .plain fixed

/-- A parameter has one counterpart, and is the counterpart of one parameter. -/
theorem correspond_biUnique
    (first second : TypeRule)
    (forth back : Bindings) :
    Relator.BiUnique (Correspond first second forth back) := by
  constructor
  · intro parameter counterpart other one another
    obtain ⟨fixed, isFixed, bound⟩ := one.back
    obtain ⟨fixed', isFixed', bound'⟩ := another.back
    obtain rfl := CppType.plain.inj (bound.symm.trans bound')
    exact fixedNames_injective isFixed isFixed'
  · intro parameter counterpart other one another
    obtain ⟨fixed, isFixed, bound⟩ := one.forth
    obtain ⟨fixed', isFixed', bound'⟩ := another.forth
    obtain rfl := CppType.plain.inj (bound.symm.trans bound')
    exact fixedNames_injective isFixed isFixed'

theorem Correspond.mem_parameters
    {first second : TypeRule}
    {forth back : Bindings}
    {parameter counterpart : String}
    (correspond : Correspond first second forth back parameter counterpart) :
    parameter ∈ first.parameters ∧ counterpart ∈ second.parameters := by
  obtain ⟨fixed, isFixed, _⟩ := correspond.forth
  obtain ⟨fixed', isFixed', _⟩ := correspond.back
  exact ⟨isSome_get?_fixedNames.mp (isFixed' ▸ rfl), isSome_get?_fixedNames.mp (isFixed ▸ rfl)⟩

/-! ## Patterns that differ in the names of parameters -/

/-- Patterns that have corresponding parameters, under as many pointer levels, in the same places
and are the same elsewhere. -/
inductive Variant
    (Counterparts : String → String → Prop)
    (first second : TypeRule) : CppType → CppType → Prop where
  | parameter {name name' : String} :
      Counterparts (CppType.plain name).baseName (CppType.plain name').baseName →
      (CppType.plain name).pointerDepth = (CppType.plain name').pointerDepth →
      Variant Counterparts first second (.plain name) (.plain name')
  | other {name : String} :
      (CppType.plain name).baseName ∉ first.parameters →
      (CppType.plain name).baseName ∉ second.parameters →
      Variant Counterparts first second (.plain name) (.plain name)
  | applied {name : String} {arguments arguments' : List CppType} :
      List.Forall₂ (Variant Counterparts first second) arguments arguments' →
      Variant Counterparts first second (.applied name arguments) (.applied name arguments')

section Covering

variable
  {first second : TypeRule}
  {forth back : Bindings}

/-- A parameter that is held fixed is a plain name under its pointer levels. -/
theorem substitute_holding_parameter
    {rule : TypeRule}
    {name : String}
    (isParameter : (CppType.plain name).baseName ∈ rule.parameters) :
    ∃ fixed,
      (fixedNames rule).get? (CppType.plain name).baseName = some fixed ∧
        reservedStart <+: fixed.toList ∧
        (CppType.plain fixed).baseName = fixed ∧
        (CppType.plain fixed).pointerDepth = 0 ∧
        (CppType.plain name).substitute (holding rule) =
          (CppType.plain fixed).addPointers (CppType.plain name).pointerDepth := by
  obtain ⟨fixed, isFixed⟩ := Option.isSome_iff_exists.mp (isSome_get?_fixedNames.mpr isParameter)
  obtain ⟨position, _, rfl⟩ := exists_position_of_get?_fixedNames isFixed
  obtain ⟨base, levels⟩ := parts_plain_fixedName position
  refine ⟨_, isFixed, reservedStart_prefix_fixedName position, base, levels, ?_⟩
  rw [CppType.substitute_plain, Bindings.image, holding, Keyed.get?_map, isFixed]
  rfl

theorem substitute_of_not_parameter
    {rule : TypeRule}
    {bindings : Bindings}
    {name : String}
    (within : bindings.Within rule.parameters)
    (notParameter : (CppType.plain name).baseName ∉ rule.parameters) :
    (CppType.plain name).substitute bindings = .plain name := by
  rw [CppType.substitute_plain, Bindings.image, within.get?_eq_none notParameter,
    Option.getD_none, CppType.addPointers_plain_baseName]

/-- Where one pattern has a parameter, a pattern that turns into it while it is held fixed has a
parameter too. -/
theorem isParameter_of_substitute_eq
    {name name' : String}
    (backWithin : back.Within second.parameters)
    (unreserved : ¬ reservedStart <+: (CppType.plain name').baseName.toList)
    (isParameter : (CppType.plain name).baseName ∈ first.parameters)
    (backward :
      (CppType.plain name').substitute back = (CppType.plain name).substitute (holding first)) :
    (CppType.plain name').baseName ∈ second.parameters := by
  obtain ⟨fixed, _, reserved, base, _, held⟩ := substitute_holding_parameter isParameter
  by_contra notParameter
  rw [substitute_of_not_parameter backWithin notParameter, held] at backward
  have sameBase := congrArg CppType.baseName backward
  rw [CppType.baseName_addPointers, base] at sameBase
  exact unreserved (sameBase ▸ reserved)

/-- Plain names that turn into each other are corresponding parameters or the same name. -/
theorem variant_plain
    {name name' : String}
    (forthWithin : forth.Within first.parameters)
    (backWithin : back.Within second.parameters)
    (unreserved : Unreserved (.plain name))
    (unreserved' : Unreserved (.plain name'))
    (forward :
      (CppType.plain name).substitute forth = (CppType.plain name').substitute (holding second))
    (backward :
      (CppType.plain name').substitute back = (CppType.plain name).substitute (holding first)) :
    Variant (Correspond first second forth back) first second (.plain name) (.plain name') := by
  have isNode := List.mem_singleton_self (CppType.plain name)
  have isNode' := List.mem_singleton_self (CppType.plain name')
  by_cases isParameter : (CppType.plain name).baseName ∈ first.parameters
  · have isParameter' :=
      isParameter_of_substitute_eq backWithin (unreserved'.baseName isNode') isParameter backward
    obtain ⟨fixed, isFixed, _, _, levels, held⟩ := substitute_holding_parameter isParameter
    obtain ⟨fixed', isFixed', _, _, levels', held'⟩ := substitute_holding_parameter isParameter'
    rw [held', CppType.substitute_plain] at forward
    rw [held, CppType.substitute_plain] at backward
    have forwardDepth := congrArg CppType.pointerDepth forward
    have backwardDepth := congrArg CppType.pointerDepth backward
    simp only [CppType.pointerDepth_addPointers, levels, levels'] at forwardDepth backwardDepth
    have sameDepth : (CppType.plain name).pointerDepth = (CppType.plain name').pointerDepth := by
      omega
    rw [sameDepth] at forward backward
    refine .parameter ⟨⟨fixed', isFixed', ?_⟩, ⟨fixed, isFixed, ?_⟩⟩ sameDepth
    · exact CppType.addPointers_injective _ forward
    · exact CppType.addPointers_injective _ backward
  · have notParameter' : (CppType.plain name').baseName ∉ second.parameters := fun isParameter' =>
      isParameter
        (isParameter_of_substitute_eq forthWithin (unreserved.baseName isNode) isParameter' forward)
    rw [substitute_of_not_parameter forthWithin isParameter,
      substitute_of_not_parameter (within_holding second) notParameter'] at forward
    rw [← forward] at notParameter' ⊢
    exact .other isParameter notParameter'

/-- A plain name that is held fixed stays a plain name. -/
theorem arguments?_substitute_holding
    (rule : TypeRule)
    (name : String) :
    ((CppType.plain name).substitute (holding rule)).arguments? = none := by
  by_cases isParameter : (CppType.plain name).baseName ∈ rule.parameters
  · obtain ⟨fixed, _, _, _, _, held⟩ := substitute_holding_parameter isParameter
    rw [held, CppType.arguments?_addPointers]
    rfl
  · rw [substitute_of_not_parameter (within_holding rule) isParameter]
    rfl

theorem Unreserved.argument
    {name : String}
    {arguments : List CppType}
    {argument : CppType}
    (unreserved : Unreserved (.applied name arguments))
    (member : argument ∈ arguments) :
    Unreserved argument := by
  intro node isNode
  apply unreserved
  rw [CppType.nodes]
  exact List.mem_cons_of_mem _ (CppType.mem_nodesOfList.mpr ⟨argument, member, isNode⟩)

theorem forall₂_iff_map_eq
    {One Other Value : Type}
    {value : One → Value}
    {otherValue : Other → Value}
    {ones : List One}
    {others : List Other} :
    List.Forall₂ (fun one other => value one = otherValue other) ones others ↔
      ones.map value = others.map otherValue := by
  rw [← List.forall₂_eq_eq_eq, List.forall₂_map_left_iff, List.forall₂_map_right_iff]

/-- A relation that follows for the members of two lists follows along the lists. -/
theorem forall₂_imp_of_mem
    {One Other : Type}
    {Related Wanted : One → Other → Prop}
    {ones : List One}
    {others : List Other}
    (follows : ∀ one ∈ ones, ∀ other ∈ others, Related one other → Wanted one other)
    (related : List.Forall₂ Related ones others) :
    List.Forall₂ Wanted ones others := by
  refine List.forall₂_iff_zip.mpr ⟨related.length_eq, fun {one other} paired => ?_⟩
  obtain ⟨member, member'⟩ := List.of_mem_zip paired
  exact follows one member other member' (List.forall₂_zip related paired)

/-- Patterns that turn into each other while the other is held fixed are variants. -/
theorem variant_of_substitute_eq
    {pattern pattern' : CppType}
    (forthWithin : forth.Within first.parameters)
    (backWithin : back.Within second.parameters)
    (unreserved : Unreserved pattern)
    (unreserved' : Unreserved pattern')
    (forward : pattern.substitute forth = pattern'.substitute (holding second))
    (backward : pattern'.substitute back = pattern.substitute (holding first)) :
    Variant (Correspond first second forth back) first second pattern pattern' := by
  induction pattern using CppType.recurse generalizing pattern' with
  | plain name =>
      cases pattern' with
      | plain name' =>
          exact variant_plain forthWithin backWithin unreserved unreserved' forward backward
      | applied name' arguments' =>
          have plain := arguments?_substitute_holding first name
          rw [← backward, CppType.substitute] at plain
          cases plain
  | applied name arguments inductionHypothesis =>
      cases pattern' with
      | plain name' =>
          have plain := arguments?_substitute_holding second name'
          rw [← forward, CppType.substitute] at plain
          cases plain
      | applied name' arguments' =>
          simp only [CppType.substitute, CppType.substituteList_eq_map, CppType.applied.injEq]
            at forward backward
          obtain ⟨rfl, forwardAll⟩ := forward
          obtain ⟨-, backwardAll⟩ := backward
          have forwardEach := forall₂_iff_map_eq.mpr forwardAll
          have backwardEach := forall₂_iff_map_eq.mpr backwardAll.symm
          refine .applied (List.forall₂_iff_zip.mpr ⟨forwardEach.length_eq, ?_⟩)
          intro argument argument' paired
          obtain ⟨member, member'⟩ := List.of_mem_zip paired
          exact inductionHypothesis argument member (unreserved.argument member)
            (unreserved'.argument member') (List.forall₂_zip forwardEach paired)
            (List.forall₂_zip backwardEach paired).symm

end Covering

/-! ## Naming parameters by position -/

section Naming

variable
  {Counterparts : String → String → Prop}
  {first second : TypeRule}

/-- No node with arguments is named like a parameter of the rule. -/
def Unapplied
    (rule : TypeRule)
    (pattern : CppType) :
    Prop :=
  ∀ node ∈ pattern.nodes, node.arguments?.isSome → node.baseName ∉ rule.parameters

theorem Unapplied.argument
    {rule : TypeRule}
    {name : String}
    {arguments : List CppType}
    {argument : CppType}
    (unapplied : Unapplied rule (.applied name arguments))
    (member : argument ∈ arguments) :
    Unapplied rule argument := by
  intro node isNode
  apply unapplied
  rw [CppType.nodes]
  exact List.mem_cons_of_mem _ (CppType.mem_nodesOfList.mpr ⟨argument, member, isNode⟩)

/-- An applied node contributes the parameters of its arguments only. -/
theorem filter_baseNames_applied
    {rule : TypeRule}
    {name : String}
    {arguments : List CppType}
    (unapplied : Unapplied rule (.applied name arguments)) :
    (CppType.applied name arguments).baseNames.filter rule.isParameter =
      arguments.flatMap fun argument => argument.baseNames.filter rule.isParameter := by
  have notParameter : (CppType.applied name arguments).baseName ∉ rule.parameters :=
    unapplied _ (by simp [CppType.nodes]) rfl
  rw [CppType.baseNames,
    List.filter_cons_of_neg (by simpa [TypeRule.isParameter] using notParameter),
    CppType.baseNamesOfList_eq_flatMap, List.filter_flatMap]

/-- In variants, corresponding parameters occur in the same order. -/
theorem Variant.forall₂_filter_baseNames
    (areParameters :
      ∀ {parameter counterpart},
        Counterparts parameter counterpart →
        parameter ∈ first.parameters ∧ counterpart ∈ second.parameters)
    {pattern pattern' : CppType}
    (unapplied : Unapplied first pattern)
    (unapplied' : Unapplied second pattern')
    (variant : Variant Counterparts first second pattern pattern') :
    List.Forall₂ Counterparts (pattern.baseNames.filter first.isParameter)
      (pattern'.baseNames.filter second.isParameter) := by
  induction pattern using CppType.recurse generalizing pattern' with
  | plain name =>
      cases variant with
      | parameter counterparts sameDepth =>
          obtain ⟨isParameter, isParameter'⟩ := areParameters counterparts
          simp [CppType.baseNames, TypeRule.isParameter, isParameter, isParameter', counterparts]
      | other notParameter notParameter' =>
          simp [CppType.baseNames, TypeRule.isParameter, notParameter, notParameter']
  | applied name arguments inductionHypothesis =>
      cases variant with
      | applied each =>
          rw [filter_baseNames_applied unapplied, filter_baseNames_applied unapplied']
          have ordered := forall₂_imp_of_mem
            (fun argument member argument' member' =>
              inductionHypothesis argument member (unapplied.argument member)
                (unapplied'.argument member'))
            each
          exact List.rel_flatMap ordered fun _ _ related => related

/-- Distinct names correspond in the order of their first occurrence. -/
theorem forall₂_firstOccurrences
    (biUnique : Relator.BiUnique Counterparts)
    {names names' : List String}
    (correspond : List.Forall₂ Counterparts names names') :
    List.Forall₂ Counterparts
      (names.foldl (fun seen name => if seen.contains name then seen else seen ++ [name]) [])
      (names'.foldl (fun seen name => if seen.contains name then seen else seen ++ [name]) []) := by
  refine List.rel_foldl ?_ .nil correspond
  intro seen seen' sameSeen name name' counterparts
  have sameMember := List.rel_mem biUnique counterparts sameSeen
  by_cases known : name ∈ seen
  · simpa [known, sameMember.mp known] using sameSeen
  · simpa [known, mt sameMember.mpr known] using
      List.rel_append sameSeen (.cons counterparts .nil)

/-- Names that correspond are named by the same position. -/
theorem exists_positional
    (biUnique : Relator.BiUnique Counterparts)
    {names names' : List String}
    (correspond : List.Forall₂ Counterparts names names')
    {name name' : String}
    (counterparts : Counterparts name name')
    (listed : name ∈ names)
    (start : Nat)
    (positional : Nat → String) :
    ∃ given,
      (⟨(names.zipIdx start).map fun entry => (entry.1, positional entry.2)⟩ :
          Keyed String).get? name = some given ∧
        (⟨(names'.zipIdx start).map fun entry => (entry.1, positional entry.2)⟩ :
          Keyed String).get? name' = some given := by
  induction correspond generalizing start with
  | nil => cases listed
  | @cons one one' rest rest' atHead _ inductionHypothesis =>
      have sameAtHead : name = one ↔ name' = one' := Relator.rel_eq biUnique counterparts atHead
      simp only [List.zipIdx_cons, List.map_cons, Keyed.get?_mk_cons]
      by_cases isHead : name = one
      · exact ⟨positional start, by rw [if_pos isHead], by rw [if_pos (sameAtHead.mp isHead)]⟩
      · rw [if_neg isHead, if_neg (mt sameAtHead.mpr isHead)]
        exact inductionHypothesis ((List.mem_cons.mp listed).resolve_left isHead) (start + 1)

/-- Bindings that agree on corresponding parameters turn variants into the same type. -/
theorem Variant.substitute_eq
    {bindings bindings' : Bindings}
    (within : bindings.Within first.parameters)
    (within' : bindings'.Within second.parameters)
    (agree :
      ∀ {parameter counterpart},
        Counterparts parameter counterpart →
        bindings.image parameter = bindings'.image counterpart)
    {pattern pattern' : CppType}
    (variant : Variant Counterparts first second pattern pattern') :
    pattern.substitute bindings = pattern'.substitute bindings' := by
  induction pattern using CppType.recurse generalizing pattern' with
  | plain name =>
      cases variant with
      | parameter counterparts sameDepth =>
          rw [CppType.substitute_plain, CppType.substitute_plain, agree counterparts, sameDepth]
      | other notParameter notParameter' =>
          rw [substitute_of_not_parameter within notParameter,
            substitute_of_not_parameter within' notParameter']
  | applied name arguments inductionHypothesis =>
      cases variant with
      | applied each =>
          rw [CppType.substitute, CppType.substitute, CppType.substituteList_eq_map,
            CppType.substituteList_eq_map]
          have same := forall₂_imp_of_mem
            (fun argument member argument' _ => inductionHypothesis argument member) each
          rw [forall₂_iff_map_eq.mp same]

/-- Variants that are whole patterns are kept in the same bucket. -/
theorem Variant.bucketKey_eq
    (areParameters :
      ∀ {parameter counterpart},
        Counterparts parameter counterpart →
        parameter ∈ first.parameters ∧ counterpart ∈ second.parameters)
    (unapplied : Unapplied first first.pattern)
    (unapplied' : Unapplied second second.pattern)
    (variant : Variant Counterparts first second first.pattern second.pattern) :
    first.bucketKey = second.bucketKey := by
  rw [TypeRule.bucketKey, TypeRule.bucketKey]
  generalize first.pattern = pattern at variant unapplied
  generalize second.pattern = pattern' at variant unapplied'
  cases variant with
  | parameter counterparts sameDepth =>
      obtain ⟨isParameter, isParameter'⟩ := areParameters counterparts
      simp [TypeRule.isParameter, isParameter, isParameter']
  | other notParameter notParameter' =>
      simp [TypeRule.isParameter, notParameter, notParameter']
  | @applied name arguments arguments' each =>
      have notParameter := unapplied (.applied name arguments) (by simp [CppType.nodes]) rfl
      have notParameter' := unapplied' (.applied name arguments') (by simp [CppType.nodes]) rfl
      rw [if_neg (by simpa [TypeRule.isParameter] using notParameter),
        if_neg (by simpa [TypeRule.isParameter] using notParameter')]
      rfl

end Naming

/-! ## Canonical forms -/

theorem mem_firstOccurrences
    {name : String}
    {names : List String} :
    name ∈ names.foldl (fun seen name => if seen.contains name then seen else seen ++ [name]) [] ↔
      name ∈ names := by
  induction names using List.reverseRecOn with
  | nil => rfl
  | append_singleton names last inductionHypothesis =>
      rw [List.foldl_append, List.foldl_cons, List.foldl_nil, List.mem_append,
        ← inductionHypothesis, List.mem_singleton]
      split
      · rename_i seen
        rw [List.contains_iff_mem] at seen
        exact ⟨.inl, fun either => either.elim id fun isLast => isLast ▸ seen⟩
      · rw [List.mem_append, List.mem_singleton]

theorem nodup_firstOccurrences
    (names : List String) :
    (names.foldl (fun seen name => if seen.contains name then seen else seen ++ [name])
      []).Nodup := by
  induction names using List.reverseRecOn with
  | nil => exact List.nodup_nil
  | append_singleton names last inductionHypothesis =>
      rw [List.foldl_append, List.foldl_cons, List.foldl_nil]
      split
      · exact inductionHypothesis
      · rename_i unseen
        rw [List.contains_iff_mem] at unseen
        exact List.nodup_append.mpr
          ⟨inductionHypothesis, List.nodup_singleton last, fun name listed other isLast same =>
            unseen (List.mem_singleton.mp isLast ▸ same ▸ listed)⟩

end Specificity

namespace TypeRule

open Specificity

theorem mem_parametersInOrder
    {rule : TypeRule}
    {name : String} :
    name ∈ rule.parametersInOrder ↔
      name ∈ rule.parameters ∧ ∃ node ∈ rule.pattern.nodes, node.baseName = name := by
  rw [parametersInOrder, mem_firstOccurrences, List.mem_filter, CppType.baseNames_eq_map_nodes,
    List.mem_map, isParameter, List.contains_iff_mem, and_comm]

/-- In a regular rule every parameter has its place in the order of occurrence. -/
theorem Regular.parametersInOrder_perm
    {rule : TypeRule}
    (regular : rule.Regular) :
    rule.parametersInOrder.Perm rule.parameters := by
  have nodup : rule.parametersInOrder.Nodup := nodup_firstOccurrences _
  refine (List.perm_ext_iff_of_nodup nodup regular.distinct).mpr fun name => ?_
  rw [mem_parametersInOrder]
  constructor
  · rintro ⟨isParameter, _⟩
    exact isParameter
  · intro isParameter
    obtain ⟨node, isNode, _, isNamed⟩ := regular.occurs name isParameter
    exact ⟨isParameter, node, isNode, isNamed⟩

theorem Regular.unreserved
    {rule : TypeRule}
    (regular : rule.Regular) :
    Unreserved rule.pattern := by
  intro node isNode reserved
  exact regular.unmarked node isNode ((by decide : ['$'] <+: reservedStart).trans reserved)

/-- The names by position of the parameters, as bindings. -/
theorem within_positionalNames
    (rule : TypeRule) :
    Bindings.Within rule.parameters (rule.positionalNames.map CppType.plain) := by
  intro name bound
  rw [Keyed.get?_map, Option.isSome_map] at bound
  obtain ⟨positional, found⟩ := Option.isSome_iff_exists.mp bound
  obtain ⟨⟨parameter, position⟩, listed, same⟩ := List.mem_map.mp (Keyed.mem_of_get?_eq_some found)
  cases same
  exact (mem_parametersInOrder.mp (List.fst_mem_of_mem_zipIdx listed)).1

/-- Regular rules that cover each other have the same pattern and are kept in the same bucket. -/
theorem Regular.samePattern_of_compare_eq_equal
    {first second : TypeRule}
    (regular : first.Regular)
    (regular' : second.Regular)
    (equal : Specificity.compare first second = .equal) :
    first.SamePattern second ∧ first.bucketKey = second.bucketKey := by
  obtain ⟨coveredBySecond, coveredByFirst⟩ := compare_eq_equal_iff.mp equal
  obtain ⟨forth, forthWithin, forward⟩ :=
    Matching.unify_iff_exists_substitution.mp coveredByFirst
  obtain ⟨back, backWithin, backward⟩ :=
    Matching.unify_iff_exists_substitution.mp coveredBySecond
  have variant :=
    variant_of_substitute_eq forthWithin backWithin regular.unreserved regular'.unreserved forward
      backward
  have biUnique := correspond_biUnique first second forth back
  have areParameters {parameter counterpart : String} :
      Correspond first second forth back parameter counterpart →
        parameter ∈ first.parameters ∧ counterpart ∈ second.parameters :=
    Correspond.mem_parameters
  have ordered :
      List.Forall₂ (Correspond first second forth back) first.parametersInOrder
        second.parametersInOrder :=
    forall₂_firstOccurrences biUnique
      (variant.forall₂_filter_baseNames areParameters regular.unapplied regular'.unapplied)
  have sameCount : first.parameters.length = second.parameters.length := by
    rw [← regular.parametersInOrder_perm.length_eq, ordered.length_eq,
      regular'.parametersInOrder_perm.length_eq]
  refine ⟨⟨sameCount, ?_⟩,
    variant.bucketKey_eq areParameters regular.unapplied regular'.unapplied⟩
  refine variant.substitute_eq (within_positionalNames first) (within_positionalNames second) ?_
  intro parameter counterpart correspond
  have listed : parameter ∈ first.parametersInOrder :=
    regular.parametersInOrder_perm.mem_iff.mpr correspond.mem_parameters.1
  obtain ⟨given, isGiven, isGiven'⟩ :=
    exists_positional biUnique ordered correspond listed 0 fun position => "$" ++ Text.ofNat position
  rw [Bindings.image, Bindings.image, Keyed.get?_map, Keyed.get?_map, positionalNames,
    positionalNames, isGiven, isGiven']
  rfl

end TypeRule

end BindingStubs
