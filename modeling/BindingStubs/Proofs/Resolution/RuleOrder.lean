import BindingStubs.Proofs.Model.RuleBuckets
import BindingStubs.Proofs.Resolution.Simulation
import Mathlib.Data.List.Pairwise

namespace BindingStubs.Resolution

/-!
# The order in which rules are added

Adding a list of rules in another order leaves the same rules in each bucket, in another order.
The order of the rules in a bucket does not matter to resolution: at most one of those that are
added is for exactly a type, and of those with parameters the most specific one is applied.
-/

open BindingModel

/-- Faults that differ at most in the order in which an ambiguity lists its candidates. -/
inductive SameFaultUpToOrder : Fault → Fault → Prop where
  | same (fault : Fault) : SameFaultUpToOrder fault fault
  | ambiguous (type : String) {candidates permuted : List String} :
      candidates.Perm permuted →
      SameFaultUpToOrder (.ambiguous type candidates) (.ambiguous type permuted)

theorem RuleChoice.SameUpToOrder.sameChoice
    {choice choice' : RuleChoice}
    (same : choice.SameUpToOrder choice')
    (type : CppType) :
    SameChoice SameFaultUpToOrder type choice choice' := by
  cases same with
  | same choice =>
      cases choice with
      | unmatched => exact .unmatched
      | applied rule bindings => exact .applied rule bindings
      | ambiguous candidates => exact .ambiguous (.same _)
  | ambiguous permutation => exact .ambiguous (.ambiguous _ (permutation.map _))

section SameRules

variable
  {rules permuted : List TypeRule}
  {model first second : BindingModel}

/-- Of the new rules of a bucket, at most one is for exactly a type. -/
theorem find?_newRules_perm
    (permutation : rules.Perm permuted)
    (takesIn : TakesIn rules model first)
    (type : CppType)
    (key : String) :
    ((model.newRules rules key).find? fun rule => rule.isFull && rule.pattern == type) =
      (model.newRules permuted key).find? fun rule => rule.isFull && rule.pattern == type := by
  refine List.find?_eq_find?_of_perm (permutation.filter _) ?_
  rintro one ⟨oneListed, oneMatches⟩ other ⟨otherListed, otherMatches⟩
  rw [Bool.and_eq_true, beq_iff_eq] at oneMatches otherMatches
  have samePattern :=
    TypeRule.samePattern_of_isFull oneMatches.1 otherMatches.1
      (oneMatches.2.trans otherMatches.2.symm)
  by_contra differ
  have symmetric : Std.Symm fun one other : TypeRule => ¬ one.SamePattern other :=
    ⟨fun _ _ apart same => apart same.symm⟩
  exact (takesIn.apart key).forall oneListed otherListed differ samePattern

/-- The candidates for a type are the same rules in another order, of which the same one comes
first of those for exactly this type. -/
theorem chooseRule_sameUpToOrder
    (permutation : rules.Perm permuted)
    (takesIn : TakesIn rules model first)
    (takesInPermuted : TakesIn permuted model second)
    (type : CppType) :
    (chooseRule (first.rulesFor type.name) type).SameUpToOrder
      (chooseRule (second.rulesFor type.name) type) := by
  have sameBucket (key : String) : (first.bucket key).Perm (second.bucket key) := by
    rw [takesIn.bucket, takesInPermuted.bucket]
    exact (permutation.filter _).append_left _
  apply chooseRule_perm
  · simp only [rulesFor_eq_append, takesIn.bucket, takesInPermuted.bucket, List.find?_append,
      find?_newRules_perm permutation takesIn]
  · exact (sameBucket type.name).append (sameBucket TypeRule.wildcardKey)

/-- Models that took in the same rules answer alike. -/
theorem answerAlike_of_takesIn
    (permutation : rules.Perm permuted)
    (takesIn : TakesIn rules model first)
    (takesInPermuted : TakesIn permuted model second) :
    AnswerAlike SameFaultUpToOrder first second where
  entityName? scope type := by
    rw [takesIn.others, takesInPermuted.others]
    -- Naming an entity does not look at rules.
    rfl
  choice type := (chooseRule_sameUpToOrder permutation takesIn takesInPermuted type).sameChoice type
  emission _ := .same _
  endless _ := .same _

end SameRules

/-- A rule with parameters that is applied outstands all others that match. -/
theorem outstanding_of_chooseRule
    {rules : List TypeRule}
    {type : CppType}
    {rule : TypeRule}
    {bindings : Bindings}
    (chosen : chooseRule rules type = .applied rule bindings)
    (isPartial : rule.isFull = false) :
    Outstanding (partialMatches rules type) (rule, bindings) := by
  rw [chooseRule] at chosen
  cases found : rules.find? fun rule => rule.isFull && rule.pattern == type with
  | some full =>
      simp only [found] at chosen
      cases chosen
      have isFull := List.find?_some found
      simp [isPartial] at isFull
  | none =>
      simp only [found] at chosen
      exact chooseMostSpecific_eq_applied_iff.mp chosen

/-- Types resolve alike whatever the order in which rules were added, and a rule with parameters
is applied only if it is more specific than all others that match. -/
theorem resolve_ignores_rule_order
    {rules permuted : List TypeRule}
    {model first second : BindingModel}
    (distinct : rules.Pairwise fun one other => one.canonicalForm ≠ other.canonicalForm)
    (permutation : rules.Perm permuted)
    (accepted : forAll addRule rules model = .ok () first)
    (acceptedPermuted : forAll addRule permuted model = .ok () second) :
    (∀ scope type,
        Agree SameFaultUpToOrder (resolve { model := first, scope } type)
          (resolve { model := second, scope } type)) ∧
      ∀ (searched : BindingModel) scope type resolvePart,
        byRules? resolvePart { model := searched, scope } type =
            (chooseRule (searched.rulesFor type.name) type).perform resolvePart type ∧
          ∀ rule bindings,
            chooseRule (searched.rulesFor type.name) type = .applied rule bindings →
            rule.isFull = false →
            ∃ others,
              (partialMatches (searched.rulesFor type.name) type).Perm
                  ((rule, bindings) :: others) ∧
                ∀ other ∈ others, Specificity.compare rule other.1 = .more := by
  have takesIn := takesIn_of_accepted distinct accepted
  have distinctPermuted :
      permuted.Pairwise fun one other => one.canonicalForm ≠ other.canonicalForm :=
    distinct.perm permutation fun differ => differ.symm
  have takesInPermuted := takesIn_of_accepted distinctPermuted acceptedPermuted
  constructor
  · exact (answerAlike_of_takesIn permutation takesIn takesInPermuted).agree_resolve
  · intro searched scope type resolvePart
    refine ⟨byRules?_eq resolvePart _ type, fun rule bindings chosen isPartial => ?_⟩
    exact outstanding_of_chooseRule chosen isPartial

/-- A rule for pairs, in which one place is any type. -/
def pairRule
    (first second rendering : String) :
    TypeRule where
  pattern := .applied "Pair" [.plain first, .plain second]
  rendering := rendering
  parameters := ["T"]
  declarations := []
  location := Location.unknown

/-- Rules for pairs that are incomparable are ambiguous in both orders. -/
theorem resolve_ignores_order_of_pair_rules :
    let rules := [pairRule "T" "int" "Left", pairRule "int" "T" "Right"]
    let first := Change.left (forAll addRule rules) empty
    let second := Change.left (forAll addRule rules.reverse) empty
    let pair := CppType.applied "Pair" [.plain "int", .plain "int"]
    first.rulesFor "Pair" ≠ second.rulesFor "Pair" ∧
      (∃ candidates, chooseRule (first.rulesFor "Pair") pair = .ambiguous candidates) ∧
      Agree SameFaultUpToOrder (resolve { model := first } pair)
        (resolve { model := second } pair) := by
  intro rules first second pair
  have distinct : rules.Pairwise fun one other => one.canonicalForm ≠ other.canonicalForm := by
    decide +kernel
  have accepted : forAll addRule rules empty = .ok () first := rfl
  have acceptedReversed : forAll addRule rules.reverse empty = .ok () second := rfl
  have agree :=
    (resolve_ignores_rule_order distinct rules.reverse_perm.symm accepted acceptedReversed).1
  refine ⟨by decide +kernel, ⟨_, rfl⟩, agree none pair⟩

end BindingStubs.Resolution
