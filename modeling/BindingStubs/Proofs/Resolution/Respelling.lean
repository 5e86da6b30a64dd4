import BindingStubs.Proofs.Resolution.Choice
import BindingStubs.Proofs.Resolution.Placeholders
import BindingStubs.Proofs.Resolution.Variants

namespace BindingStubs

/-!
# Rules that differ in the names of their parameters

Two rules with the same canonical form whose parameters stand in the same order have parameters
that correspond: those with the same name by position.  Matching binds corresponding parameters to
the same types, and holding them fixed gives the same pattern, so that the rules match the same
types and rank alike among any other rules.
-/

namespace TypeRule

open Specificity

/-- The parameters of two rules that have the same name by position. -/
def Counterparts
    (rule respelled : TypeRule)
    (parameter counterpart : String) :
    Prop :=
  ∃ positional,
    rule.positionalNames.get? parameter = some positional ∧
      respelled.positionalNames.get? counterpart = some positional

/-- Two rules with the same canonical pattern, in which parameters in the same place of the lists
have the same name by position, and no name without arguments begins like those. -/
structure Respelling
    (rule respelled : TypeRule) : Prop where
  samePattern : rule.canonicalForm.pattern = respelled.canonicalForm.pattern
  sameOrder :
    rule.parameters.map rule.positionalNames.get? =
      respelled.parameters.map respelled.positionalNames.get?
  unmarked :
    ∀ node ∈ rule.pattern.nodes, node.arguments? = none → ¬ ['$'] <+: node.name.toList
  unmarked' :
    ∀ node ∈ respelled.pattern.nodes, node.arguments? = none → ¬ ['$'] <+: node.name.toList

/-! ## Names by position -/

theorem exists_position_of_get?_positionalNames
    {rule : TypeRule}
    {parameter positional : String}
    (found : rule.positionalNames.get? parameter = some positional) :
    ∃ position,
      rule.parametersInOrder[position]? = some parameter ∧
        positional = "$" ++ Text.ofNat position := by
  obtain ⟨⟨name, position⟩, listed, same⟩ := List.mem_map.mp (Keyed.mem_of_get?_eq_some found)
  cases same
  exact ⟨position, List.mk_mem_zipIdx_iff_getElem?.mp listed, rfl⟩

theorem positionalNames_injective
    {rule : TypeRule}
    {parameter other positional : String}
    (found : rule.positionalNames.get? parameter = some positional)
    (found' : rule.positionalNames.get? other = some positional) :
    parameter = other := by
  obtain ⟨position, isListed, rfl⟩ := exists_position_of_get?_positionalNames found
  obtain ⟨position', isListed', same⟩ := exists_position_of_get?_positionalNames found'
  rw [← append_ofNat_injective "$" same, isListed] at isListed'
  exact Option.some.inj isListed'

theorem isSome_get?_positionalNames
    {rule : TypeRule}
    {name : String} :
    (rule.positionalNames.get? name).isSome ↔ name ∈ rule.parametersInOrder := by
  constructor
  · intro isNamed
    obtain ⟨positional, found⟩ := Option.isSome_iff_exists.mp isNamed
    obtain ⟨position, isListed, _⟩ := exists_position_of_get?_positionalNames found
    exact List.mem_of_getElem? isListed
  · intro listed
    obtain ⟨position, isListed⟩ := List.mem_iff_getElem?.mp listed
    have keys : rule.positionalNames.keys = rule.parametersInOrder := by
      simp [positionalNames, Keyed.keys, List.map_map, Function.comp_def]
    have isEntry :
        (name, "$" ++ Text.ofNat position) ∈ rule.positionalNames.entries :=
      List.mem_map.mpr ⟨(name, position), List.mk_mem_zipIdx_iff_getElem?.mpr isListed, rfl⟩
    rw [Keyed.get?_eq_some_of_mem (by rw [keys]; exact nodup_firstOccurrences _) isEntry]
    rfl

theorem mark_prefix_of_get?_positionalNames
    {rule : TypeRule}
    {parameter positional : String}
    (found : rule.positionalNames.get? parameter = some positional) :
    ['$'] <+: positional.toList := by
  obtain ⟨position, _, rfl⟩ := exists_position_of_get?_positionalNames found
  rw [String.toList_append]
  exact List.prefix_append _ _

/-- A parameter that is renamed is a plain name without pointer marks. -/
theorem parts_of_get?_positionalNames
    {rule : TypeRule}
    {parameter positional : String}
    (found : rule.positionalNames.get? parameter = some positional) :
    (CppType.plain positional).baseName = positional ∧
      (CppType.plain positional).pointerDepth = 0 := by
  obtain ⟨position, _, rfl⟩ := exists_position_of_get?_positionalNames found
  exact parts_plain_append_ofNat "$" position

theorem counterparts_biUnique
    (rule respelled : TypeRule) :
    Relator.BiUnique (Counterparts rule respelled) := by
  constructor
  · rintro parameter counterpart other ⟨positional, found, found'⟩ ⟨positional', again, again'⟩
    rw [found', Option.some.injEq] at again'
    exact positionalNames_injective found (again' ▸ again)
  · rintro parameter counterpart other ⟨positional, found, found'⟩ ⟨positional', again, again'⟩
    rw [found, Option.some.injEq] at again
    exact positionalNames_injective found' (again ▸ again')

theorem Counterparts.inOrder
    {rule respelled : TypeRule}
    {parameter counterpart : String}
    (counterparts : Counterparts rule respelled parameter counterpart) :
    parameter ∈ rule.parametersInOrder ∧ counterpart ∈ respelled.parametersInOrder := by
  obtain ⟨positional, found, found'⟩ := counterparts
  exact ⟨isSome_get?_positionalNames.mp (found ▸ rfl),
    isSome_get?_positionalNames.mp (found' ▸ rfl)⟩

theorem Counterparts.mem_parameters
    {rule respelled : TypeRule}
    {parameter counterpart : String}
    (counterparts : Counterparts rule respelled parameter counterpart) :
    parameter ∈ rule.parameters ∧ counterpart ∈ respelled.parameters :=
  ⟨(mem_parametersInOrder.mp counterparts.inOrder.1).1,
    (mem_parametersInOrder.mp counterparts.inOrder.2).1⟩

/-! ## Patterns with the same canonical form -/

/-- A plain name takes its new name under its pointer levels. -/
theorem rename_plain
    (renames : Keyed String)
    (name : String) :
    (CppType.plain name).rename renames =
      (CppType.plain (renamed renames (CppType.plain name).baseName)).addPointers
        (CppType.plain name).pointerDepth := by
  rw [CppType.rename, CppType.substitute_plain, Bindings.image, Keyed.get?_map, renamed]
  cases renames.get? (CppType.plain name).baseName with
  | none => rfl
  | some given => rfl

theorem parts_rename_plain
    (rule : TypeRule)
    (name : String) :
    ((CppType.plain name).rename rule.positionalNames).baseName =
        renamed rule.positionalNames (CppType.plain name).baseName ∧
      ((CppType.plain name).rename rule.positionalNames).pointerDepth =
        (CppType.plain name).pointerDepth := by
  have parts :
      (CppType.plain (renamed rule.positionalNames (CppType.plain name).baseName)).baseName =
          renamed rule.positionalNames (CppType.plain name).baseName ∧
        (CppType.plain
          (renamed rule.positionalNames (CppType.plain name).baseName)).pointerDepth = 0 := by
    cases found : rule.positionalNames.get? (CppType.plain name).baseName with
    | none =>
        rw [renamed, found]
        exact CppType.parts_plain_baseName (.plain name)
    | some positional =>
        rw [renamed, found]
        exact parts_of_get?_positionalNames found
  rw [rename_plain, CppType.baseName_addPointers, CppType.pointerDepth_addPointers, parts.1,
    parts.2, Nat.zero_add]
  exact ⟨rfl, rfl⟩

/-- A plain name whose parts are those of another one is that one. -/
theorem plain_eq_of_parts
    {name name' : String}
    (sameBase : (CppType.plain name).baseName = (CppType.plain name').baseName)
    (sameDepth : (CppType.plain name).pointerDepth = (CppType.plain name').pointerDepth) :
    name = name' := by
  apply CppType.plain.inj
  rw [← CppType.addPointers_plain_baseName name, ← CppType.addPointers_plain_baseName name',
    sameBase, sameDepth]

/-- A name without the mark of positional names is none of them. -/
theorem ne_positional
    {rule : TypeRule}
    {name parameter positional : String}
    (unmarked : ¬ ['$'] <+: name.toList)
    (found : rule.positionalNames.get? parameter = some positional) :
    positional ≠ (CppType.plain name).baseName := by
  rintro rfl
  apply unmarked
  have whole := CppType.toList_name (.plain name)
  rw [CppType.name] at whole
  rw [whole]
  exact (mark_prefix_of_get?_positionalNames found).trans (List.prefix_append _ _)

theorem not_mem_parameters_of_get?_eq_none
    {rule : TypeRule}
    {node : CppType}
    (isNode : node ∈ rule.pattern.nodes)
    (unnamed : rule.positionalNames.get? node.baseName = none) :
    node.baseName ∉ rule.parameters := by
  intro isParameter
  have listed : node.baseName ∈ rule.parametersInOrder :=
    mem_parametersInOrder.mpr ⟨isParameter, node, isNode, rfl⟩
  rw [← isSome_get?_positionalNames, unnamed] at listed
  cases listed

section Patterns

variable
  {rule respelled : TypeRule}

theorem Respelling.variant_plain
    (respelling : rule.Respelling respelled)
    {name name' : String}
    (isNode : .plain name ∈ rule.pattern.nodes)
    (isNode' : .plain name' ∈ respelled.pattern.nodes)
    (same :
      (CppType.plain name).rename rule.positionalNames =
        (CppType.plain name').rename respelled.positionalNames) :
    Variant (Counterparts rule respelled) rule respelled (.plain name) (.plain name') := by
  obtain ⟨base, depth⟩ := parts_rename_plain rule name
  obtain ⟨base', depth'⟩ := parts_rename_plain respelled name'
  rw [same, base'] at base
  rw [same, depth'] at depth
  rw [renamed, renamed] at base
  have unmarked := respelling.unmarked _ isNode rfl
  have unmarked' := respelling.unmarked' _ isNode' rfl
  cases found : rule.positionalNames.get? (CppType.plain name).baseName with
  | some positional =>
      cases found' : respelled.positionalNames.get? (CppType.plain name').baseName with
      | some positional' =>
          rw [found, found'] at base
          exact .parameter ⟨positional, found, found'.trans (congrArg some base)⟩ depth.symm
      | none =>
          rw [found, found'] at base
          exact absurd base.symm (ne_positional unmarked' found)
  | none =>
      cases found' : respelled.positionalNames.get? (CppType.plain name').baseName with
      | some positional' =>
          rw [found, found'] at base
          exact absurd base (ne_positional unmarked found')
      | none =>
          rw [found, found'] at base
          obtain rfl := plain_eq_of_parts base depth
          exact .other (not_mem_parameters_of_get?_eq_none isNode found)
            (not_mem_parameters_of_get?_eq_none isNode' found')

/-- Respelled patterns are variants: corresponding parameters stand in the same places. -/
theorem Respelling.variant
    (respelling : rule.Respelling respelled)
    {pattern pattern' : CppType}
    (within : ∀ node ∈ pattern.nodes, node ∈ rule.pattern.nodes)
    (within' : ∀ node ∈ pattern'.nodes, node ∈ respelled.pattern.nodes)
    (same :
      pattern.rename rule.positionalNames = pattern'.rename respelled.positionalNames) :
    Variant (Counterparts rule respelled) rule respelled pattern pattern' := by
  induction pattern using CppType.recurse generalizing pattern' with
  | plain name =>
      cases pattern' with
      | plain name' =>
          exact respelling.variant_plain (within _ (.head _)) (within' _ (.head _)) same
      | applied name' arguments' =>
          rw [rename_plain] at same
          have plain := CppType.arguments?_addPointers
            (.plain (renamed rule.positionalNames (CppType.plain name).baseName))
            (CppType.plain name).pointerDepth
          rw [same] at plain
          cases plain
  | applied name arguments inductionHypothesis =>
      cases pattern' with
      | plain name' =>
          rw [rename_plain respelled.positionalNames] at same
          have plain := CppType.arguments?_addPointers
            (.plain (renamed respelled.positionalNames (CppType.plain name').baseName))
            (CppType.plain name').pointerDepth
          rw [← same] at plain
          cases plain
      | applied name' arguments' =>
          have inside :
              ∀ {other : String} {list : List CppType} {argument : CppType},
                argument ∈ list →
                ∀ node ∈ argument.nodes, node ∈ (CppType.applied other list).nodes :=
            fun member node isNode =>
              .tail _ (CppType.mem_nodesOfList.mpr ⟨_, member, isNode⟩)
          simp only [CppType.rename, CppType.substitute, CppType.substituteList_eq_map,
            CppType.applied.injEq] at same
          obtain ⟨rfl, sameArguments⟩ := same
          refine .applied (forall₂_imp_of_mem ?_ (forall₂_iff_map_eq.mpr sameArguments))
          intro argument member argument' member' sameArgument
          exact inductionHypothesis argument member
            (fun node isNode => within node (inside member node isNode))
            (fun node isNode => within' node (inside member' node isNode)) sameArgument

theorem Respelling.variant_pattern
    (respelling : rule.Respelling respelled) :
    Variant (Counterparts rule respelled) rule respelled rule.pattern respelled.pattern :=
  respelling.variant (fun _ isNode => isNode) (fun _ isNode => isNode) respelling.samePattern

end Patterns

/-! ## Matching -/

/-- Bindings under which corresponding parameters stand for the same types. -/
def BindAlike
    (rule respelled : TypeRule)
    (bindings bindings' : Bindings) :
    Prop :=
  ∀ {parameter counterpart},
    Counterparts rule respelled parameter counterpart →
    bindings.get? parameter = bindings'.get? counterpart

section Matching

open Matching

variable
  {rule respelled : TypeRule}

/-- Outcomes of matching that are both successes or both failures, with bindings that are alike. -/
def MatchAlike
    (rule respelled : TypeRule)
    (outcome outcome' : Bool × Bindings) :
    Prop :=
  outcome.1 = outcome'.1 ∧ BindAlike rule respelled outcome.2 outcome'.2

theorem BindAlike.bindParameter
    {bindings bindings' : Bindings}
    (alike : BindAlike rule respelled bindings bindings')
    {parameter counterpart : String}
    (counterparts : Counterparts rule respelled parameter counterpart)
    (type : CppType) :
    MatchAlike rule respelled (bindParameter parameter type bindings)
      (bindParameter counterpart type bindings') := by
  rw [Matching.bindParameter, Matching.bindParameter, ← alike counterparts]
  cases bindings.get? parameter with
  | some existing => exact ⟨rfl, alike⟩
  | none =>
      refine ⟨rfl, fun {other other'} others => ?_⟩
      have sameName : other = parameter ↔ other' = counterpart :=
        Relator.rel_eq (counterparts_biUnique rule respelled) others counterparts
      rw [Keyed.get?_insert, Keyed.get?_insert, alike others]
      simp only [sameName]

theorem BindAlike.unifyAll
    {patterns patterns' : List CppType}
    (each :
      List.Forall₂
        (fun pattern pattern' =>
          ∀ {concrete bindings bindings'},
            BindAlike rule respelled bindings bindings' →
            MatchAlike rule respelled (unify rule.parameters pattern concrete bindings)
              (unify respelled.parameters pattern' concrete bindings'))
        patterns patterns')
    {concretes : List CppType}
    {bindings bindings' : Bindings}
    (alike : BindAlike rule respelled bindings bindings') :
    MatchAlike rule respelled (unifyAll rule.parameters patterns concretes bindings)
      (unifyAll respelled.parameters patterns' concretes bindings') := by
  induction each generalizing concretes bindings bindings' with
  | nil =>
      rw [Matching.unifyAll, Matching.unifyAll]
      · exact ⟨rfl, alike⟩
      · simp
      · simp
  | @cons pattern pattern' patterns patterns' first _ inductionHypothesis =>
      cases concretes with
      | nil =>
          rw [Matching.unifyAll, Matching.unifyAll]
          · exact ⟨rfl, alike⟩
          · simp
          · simp
      | cons concrete concretes =>
          rw [Matching.unifyAll, Matching.unifyAll]
          have matched :
              MatchAlike rule respelled (unify rule.parameters pattern concrete bindings)
                (unify respelled.parameters pattern' concrete bindings') :=
            first alike
          generalize unify rule.parameters pattern concrete bindings = outcome at matched
          generalize unify respelled.parameters pattern' concrete bindings' = outcome' at matched
          obtain ⟨success, extended⟩ := outcome
          obtain ⟨success', extended'⟩ := outcome'
          obtain ⟨rfl, extendedAlike⟩ := matched
          cases success with
          | true => exact inductionHypothesis extendedAlike
          | false => exact ⟨rfl, extendedAlike⟩

/-- Matching a type against variants succeeds or fails alike, and binds alike. -/
theorem BindAlike.unify
    {pattern pattern' : CppType}
    (variant : Variant (Counterparts rule respelled) rule respelled pattern pattern')
    {concrete : CppType}
    {bindings bindings' : Bindings}
    (alike : BindAlike rule respelled bindings bindings') :
    MatchAlike rule respelled (unify rule.parameters pattern concrete bindings)
      (unify respelled.parameters pattern' concrete bindings') := by
  induction pattern using CppType.recurse generalizing pattern' concrete bindings bindings' with
  | plain name =>
      cases variant with
      | @parameter _ name' counterparts sameDepth =>
          obtain ⟨isParameter, isParameter'⟩ := counterparts.mem_parameters
          rw [Matching.unify, Matching.unify, if_pos (by simpa using isParameter),
            if_pos (by simpa using isParameter'), sameDepth]
          cases concrete.removePointers? (CppType.plain name').pointerDepth with
          | none => exact ⟨rfl, alike⟩
          | some bound => exact alike.bindParameter counterparts bound
      | other notParameter notParameter' =>
          rw [Matching.unify, Matching.unify, if_neg (by simpa using notParameter),
            if_neg (by simpa using notParameter')]
          exact ⟨rfl, alike⟩
  | applied name patterns inductionHypothesis =>
      cases variant with
      | @applied _ _ patterns' each =>
          cases concrete with
          | plain other => exact ⟨rfl, alike⟩
          | applied other concretes =>
              rw [Matching.unify, Matching.unify, each.length_eq]
              split
              · refine alike.unifyAll (forall₂_imp_of_mem ?_ each)
                intro pattern member pattern' _ variantInside concrete bindings bindings' start
                exact inductionHypothesis pattern member variantInside start
              · exact ⟨rfl, alike⟩

/-- Respelled rules match the same types, with bindings that are alike. -/
theorem Respelling.match?_cases
    (respelling : rule.Respelling respelled)
    (type : CppType) :
    match? rule.parameters rule.pattern type = none ∧
        match? respelled.parameters respelled.pattern type = none ∨
      ∃ bindings bindings',
        match? rule.parameters rule.pattern type = some bindings ∧
          match? respelled.parameters respelled.pattern type = some bindings' ∧
          BindAlike rule respelled bindings bindings' := by
  have start : BindAlike rule respelled {} {} := fun _ => rfl
  have matched :
      MatchAlike rule respelled (Matching.unify rule.parameters rule.pattern type {})
        (Matching.unify respelled.parameters respelled.pattern type {}) :=
    start.unify respelling.variant_pattern
  rw [Matching.match?, Matching.match?]
  generalize Matching.unify rule.parameters rule.pattern type {} = outcome at matched
  generalize Matching.unify respelled.parameters respelled.pattern type {} = outcome' at matched
  obtain ⟨success, bindings⟩ := outcome
  obtain ⟨success', bindings'⟩ := outcome'
  obtain ⟨rfl, alike⟩ := matched
  cases success with
  | true => exact .inr ⟨bindings, bindings', rfl, rfl, alike⟩
  | false => exact .inl ⟨rfl, rfl⟩

end Matching

/-! ## Ranking -/

section Ranking

variable
  {rule respelled : TypeRule}

theorem isEmpty_eq_of_forall₂
    {One Other : Type}
    {Related : One → Other → Prop}
    {ones : List One}
    {others : List Other}
    (related : List.Forall₂ Related ones others) :
    ones.isEmpty = others.isEmpty := by
  cases related with
  | nil => rfl
  | cons first rest => rfl

/-- Parameters in the same place of the lists have the same name by position, or none. -/
theorem Respelling.forall₂_parameters
    (respelling : rule.Respelling respelled) :
    List.Forall₂
      (fun parameter counterpart =>
        rule.positionalNames.get? parameter = respelled.positionalNames.get? counterpart)
      rule.parameters respelled.parameters :=
  forall₂_iff_map_eq.mpr respelling.sameOrder

theorem Respelling.isFull_eq
    (respelling : rule.Respelling respelled) :
    rule.isFull = respelled.isFull :=
  isEmpty_eq_of_forall₂ respelling.forall₂_parameters

/-- Names that stand in the same places of two lists are numbered alike. -/
theorem get?_numbered_eq
    {name name' : String}
    {names names' : List String}
    (alike : List.Forall₂ (fun one one' => name = one ↔ name' = one') names names')
    (numbering : Nat → String)
    (start : Nat)
    {keyed keyed' : Keyed String}
    (same : keyed.get? name = keyed'.get? name') :
    (((names.zipIdx start).map fun entry => (entry.1, numbering entry.2)).foldl
        (fun current entry => current.insert entry.1 entry.2) keyed).get? name =
      (((names'.zipIdx start).map fun entry => (entry.1, numbering entry.2)).foldl
        (fun current entry => current.insert entry.1 entry.2) keyed').get? name' := by
  induction alike generalizing start keyed keyed' with
  | nil => exact same
  | @cons one one' names names' atHead _ inductionHypothesis =>
      simp only [List.zipIdx_cons, List.map_cons, List.foldl_cons]
      refine inductionHypothesis (start + 1) ?_
      rw [Keyed.get?_insert, Keyed.get?_insert, same]
      simp only [atHead]

/-- Corresponding parameters are held fixed under the same name. -/
theorem Respelling.get?_fixedNames_eq
    (respelling : rule.Respelling respelled)
    {parameter counterpart : String}
    (counterparts : Counterparts rule respelled parameter counterpart) :
    (fixedNames rule).get? parameter = (fixedNames respelled).get? counterpart := by
  obtain ⟨positional, found, found'⟩ := counterparts
  have alike :
      List.Forall₂ (fun one one' => parameter = one ↔ counterpart = one') rule.parameters
        respelled.parameters := by
    refine respelling.forall₂_parameters.imp fun one one' same => ⟨?_, ?_⟩
    · rintro rfl
      exact positionalNames_injective found' (same ▸ found)
    · rintro rfl
      exact positionalNames_injective found (same ▸ found')
  have unnamed : (Keyed.empty : Keyed String).get? parameter = Keyed.empty.get? counterpart := rfl
  exact get?_numbered_eq alike fixedName 0 unnamed

theorem Respelling.held_eq
    (respelling : rule.Respelling respelled) :
    rule.pattern.rename (fixedNames rule) = respelled.pattern.rename (fixedNames respelled) := by
  refine respelling.variant_pattern.substitute_eq (within_holding rule)
    (within_holding respelled) ?_
  intro parameter counterpart counterparts
  rw [Bindings.image, Bindings.image, holding, holding, Keyed.get?_map, Keyed.get?_map,
    respelling.get?_fixedNames_eq counterparts]
  obtain ⟨isParameter, isParameter'⟩ := counterparts.mem_parameters
  obtain ⟨fixed, isFixed⟩ := Option.isSome_iff_exists.mp (isSome_get?_fixedNames.mpr isParameter')
  rw [isFixed]
  rfl

/-- The same rule, or one and its respelling. -/
inductive Respelled
    (rule respelled : TypeRule) : TypeRule → TypeRule → Prop where
  | same (other : TypeRule) : Respelled rule respelled other other
  | respelled : Respelled rule respelled rule respelled

theorem Respelling.covers_eq
    (respelling : rule.Respelling respelled)
    {general general' specific specific' : TypeRule}
    (generals : Respelled rule respelled general general')
    (specifics : Respelled rule respelled specific specific') :
    covers general specific = covers general' specific' := by
  have held :
      specific.pattern.rename (fixedNames specific) =
        specific'.pattern.rename (fixedNames specific') := by
    cases specifics with
    | same => rfl
    | respelled => exact respelling.held_eq
  rw [covers, covers, held]
  cases generals with
  | same => rfl
  | respelled =>
      have start : BindAlike rule respelled {} {} := fun _ => rfl
      exact (start.unify respelling.variant_pattern).1

/-- Respelled rules compare alike with any other. -/
theorem Respelling.compare_eq
    (respelling : rule.Respelling respelled)
    {first first' second second' : TypeRule}
    (firsts : Respelled rule respelled first first')
    (seconds : Respelled rule respelled second second') :
    Specificity.compare first second = Specificity.compare first' second' := by
  rw [Specificity.compare, Specificity.compare, respelling.covers_eq seconds firsts,
    respelling.covers_eq firsts seconds]

theorem Respelling.isMostSpecific_eq
    (respelling : rule.Respelling respelled)
    {rules rules' : List TypeRule}
    (related : List.Forall₂ (Respelled rule respelled) rules rules')
    {candidate candidate' : TypeRule}
    (candidates : Respelled rule respelled candidate candidate')
    (position : Nat) :
    isMostSpecific rules candidate position = isMostSpecific rules' candidate' position := by
  rw [isMostSpecific, isMostSpecific]
  generalize 0 = start
  induction related generalizing start with
  | nil => rfl
  | @cons other other' rest rest' others _ inductionHypothesis =>
      rw [List.zipIdx_cons, List.zipIdx_cons, List.all_cons, List.all_cons,
        respelling.compare_eq candidates others, inductionHypothesis (start + 1)]

/-- The most specific rule keeps its position. -/
theorem Respelling.mostSpecific?_eq
    (respelling : rule.Respelling respelled)
    {rules rules' : List TypeRule}
    (related : List.Forall₂ (Respelled rule respelled) rules rules') :
    mostSpecific? rules = mostSpecific? rules' := by
  rw [mostSpecific?, mostSpecific?]
  have each :
      ∀ {candidate candidate'},
        Respelled rule respelled candidate candidate' →
        ∀ position,
          isMostSpecific rules candidate position = isMostSpecific rules' candidate' position :=
    respelling.isMostSpecific_eq related
  generalize isMostSpecific rules = isMost at each
  generalize isMostSpecific rules' = isMost' at each
  generalize 0 = start
  induction related generalizing start with
  | nil => rfl
  | @cons other other' rest rest' others _ inductionHypothesis =>
      rw [List.zipIdx_cons, List.zipIdx_cons, List.find?_cons, List.find?_cons, each others start]
      cases isMost' other' start with
      | true => rfl
      | false => exact inductionHypothesis (start + 1)

end Ranking

end TypeRule

/-! ## Choosing -/

namespace Resolution

open TypeRule

section Choosing

variable
  {rule respelled : TypeRule}

/-- Bindings of exactly the parameters that stand in the pattern of a rule. -/
def Instantiates
    (rule : TypeRule)
    (bindings : Bindings) :
    Prop :=
  ∀ name,
    (bindings.get? name).isSome ↔ name ∈ rule.parameters ∧ Matching.Stands name rule.pattern

/-- Bindings of two rules that instantiate them and are alike. -/
structure InstantiateAlike
    (rule respelled : TypeRule)
    (bindings bindings' : Bindings) : Prop where
  instantiates : Instantiates rule bindings
  instantiates' : Instantiates respelled bindings'
  alike : BindAlike rule respelled bindings bindings'

/-- The same match, or matches by a rule and its respelling. -/
inductive EntryRespelled
    (rule respelled : TypeRule) : TypeRule × Bindings → TypeRule × Bindings → Prop where
  | same (entry : TypeRule × Bindings) : EntryRespelled rule respelled entry entry
  | respelled {bindings bindings' : Bindings} :
      InstantiateAlike rule respelled bindings bindings' →
      EntryRespelled rule respelled (rule, bindings) (respelled, bindings')

/-- Choices that are the same but for a rule and its respelling. -/
inductive ChoiceRespelled
    (rule respelled : TypeRule) : RuleChoice → RuleChoice → Prop where
  | unmatched : ChoiceRespelled rule respelled .unmatched .unmatched
  | applied {entry entry' : TypeRule × Bindings} :
      EntryRespelled rule respelled entry entry' →
      ChoiceRespelled rule respelled (.applied entry.1 entry.2) (.applied entry'.1 entry'.2)
  | ambiguous {candidates candidates' : List TypeRule} :
      List.Forall₂ (Respelled rule respelled) candidates candidates' →
      ChoiceRespelled rule respelled (.ambiguous candidates) (.ambiguous candidates')

theorem instantiates_of_match?
    {type : CppType}
    {bindings : Bindings}
    (matched : Matching.match? rule.parameters rule.pattern type = some bindings) :
    Instantiates rule bindings := by
  intro name
  have bound := Matching.isSome_get?_unify (Matching.match?_eq_some_iff.mp matched) name
  simpa using bound

theorem instantiates_of_isFull
    (isFull : rule.isFull = true) :
    Instantiates rule {} := by
  have noParameters : rule.parameters = [] := by simpa [TypeRule.isFull] using isFull
  intro name
  simp [noParameters]

theorem EntryRespelled.rules
    {entry entry' : TypeRule × Bindings}
    (entries : EntryRespelled rule respelled entry entry') :
    Respelled rule respelled entry.1 entry'.1 := by
  cases entries with
  | same => exact .same _
  | respelled => exact .respelled

/-- Rules for exactly one type are found alike. -/
theorem isFull_and_pattern_eq
    (respelling : rule.Respelling respelled)
    {candidate candidate' : TypeRule}
    (candidates : Respelled rule respelled candidate candidate')
    (type : CppType) :
    (candidate.isFull && candidate.pattern == type) =
      (candidate'.isFull && candidate'.pattern == type) := by
  cases candidates with
  | same => rfl
  | respelled =>
      cases isFull : rule.isFull with
      | false =>
          rw [← respelling.isFull_eq, isFull, Bool.false_and, Bool.false_and]
      | true =>
          have isFull' : respelled.isFull = true := respelling.isFull_eq ▸ isFull
          have samePattern := respelling.samePattern
          rw [pattern_canonicalForm_of_isFull isFull, pattern_canonicalForm_of_isFull isFull']
            at samePattern
          rw [isFull', samePattern]

theorem forall₂_partialMatches
    (respelling : rule.Respelling respelled)
    {rules rules' : List TypeRule}
    (related : List.Forall₂ (Respelled rule respelled) rules rules')
    (type : CppType) :
    List.Forall₂ (EntryRespelled rule respelled) (partialMatches rules type)
      (partialMatches rules' type) := by
  induction related with
  | nil => exact .nil
  | @cons candidate candidate' rest rest' candidates _ inductionHypothesis =>
      rw [partialMatches, partialMatches, List.filterMap_cons, List.filterMap_cons]
      rw [partialMatches, partialMatches] at inductionHypothesis
      cases candidates with
      | same =>
          cases (if candidate.isFull then none
              else (Matching.match? candidate.parameters candidate.pattern type).map
                fun bindings => (candidate, bindings)) with
          | none => exact inductionHypothesis
          | some entry => exact .cons (.same entry) inductionHypothesis
      | respelled =>
          rw [← respelling.isFull_eq]
          cases rule.isFull with
          | true => exact inductionHypothesis
          | false =>
              rcases respelling.match?_cases type with
                ⟨unmatched, unmatched'⟩ | ⟨bindings, bindings', matched, matched', alike⟩
              · rw [unmatched, unmatched']
                exact inductionHypothesis
              · rw [matched, matched']
                refine .cons (.respelled ⟨?_, ?_, alike⟩) inductionHypothesis
                · exact instantiates_of_match? matched
                · exact instantiates_of_match? matched'

theorem chooseMostSpecific_respelled
    (respelling : rule.Respelling respelled)
    {found found' : List (TypeRule × Bindings)}
    (related : List.Forall₂ (EntryRespelled rule respelled) found found') :
    ChoiceRespelled rule respelled (chooseMostSpecific found) (chooseMostSpecific found') := by
  have rules :
      List.Forall₂ (Respelled rule respelled) (found.map Prod.fst) (found'.map Prod.fst) := by
    rw [List.forall₂_map_left_iff, List.forall₂_map_right_iff]
    exact related.imp fun _ _ => EntryRespelled.rules
  rw [chooseMostSpecific, chooseMostSpecific, respelling.mostSpecific?_eq rules]
  have sameLength := related.length_eq
  rw [isEmpty_eq_of_forall₂ related]
  split
  · exact .unmatched
  · cases Specificity.mostSpecific? (found'.map Prod.fst) with
    | none => exact .ambiguous rules
    | some position =>
        by_cases inRange : position < found.length
        · have atPosition := related.get inRange (sameLength ▸ inRange)
          rw [Option.bind_some, Option.bind_some, List.getElem?_eq_getElem inRange,
            List.getElem?_eq_getElem (sameLength ▸ inRange)]
          exact .applied atPosition
        · rw [Option.bind_some, Option.bind_some, List.getElem?_eq_none (Nat.le_of_not_lt inRange),
            List.getElem?_eq_none (sameLength ▸ Nat.le_of_not_lt inRange)]
          exact .ambiguous rules

/-- Among rules of which one is respelled, the choice is the same but for the respelling. -/
theorem chooseRule_respelled
    (respelling : rule.Respelling respelled)
    {rules rules' : List TypeRule}
    (related : List.Forall₂ (Respelled rule respelled) rules rules')
    (type : CppType) :
    ChoiceRespelled rule respelled (chooseRule rules type) (chooseRule rules' type) := by
  rw [chooseRule, chooseRule]
  have partials :=
    chooseMostSpecific_respelled respelling (forall₂_partialMatches respelling related type)
  generalize chooseMostSpecific (partialMatches rules type) = choice at partials ⊢
  generalize chooseMostSpecific (partialMatches rules' type) = choice' at partials ⊢
  induction related with
  | nil => exact partials
  | @cons candidate candidate' rest rest' candidates _ inductionHypothesis =>
      rw [List.find?_cons, List.find?_cons, isFull_and_pattern_eq respelling candidates type]
      cases isFound : candidate'.isFull && candidate'.pattern == type with
      | false => exact inductionHypothesis
      | true => 
          cases candidates with
          | same => exact .applied (.same (_, {}))
          | respelled => 
              have isFull' : respelled.isFull = true := (Bool.and_eq_true_iff.mp isFound).1
              have isFull : rule.isFull = true := respelling.isFull_eq ▸ isFull'
              exact .applied (.respelled
                ⟨instantiates_of_isFull isFull, instantiates_of_isFull isFull', fun _ => rfl⟩)

end Choosing

end Resolution

end BindingStubs
