import BindingStubs.Proofs.CppType.Substitution
import BindingStubs.Proofs.Model.Lookup

namespace BindingStubs

/-!
# Buckets of rules

A rule that is added goes to the end of its bucket, unless the bucket has a rule with the same
pattern.  If no two rules of a list have the same canonical form, then which of them go into a
bucket depends only on what the bucket held before the first of them.
-/

namespace TypeRule

/-- Two rules with the same pattern, of which a bucket keeps the first. -/
def SamePattern
    (first second : TypeRule) :
    Prop :=
  first.parameters.length = second.parameters.length ∧
    first.canonicalForm.pattern = second.canonicalForm.pattern

theorem SamePattern.symm
    {first second : TypeRule}
    (same : first.SamePattern second) :
    second.SamePattern first :=
  ⟨same.1.symm, same.2.symm⟩

/-- Without parameters, a pattern is canonical as it stands. -/
theorem pattern_canonicalForm_of_isFull
    {rule : TypeRule}
    (isFull : rule.isFull = true) :
    rule.canonicalForm.pattern = rule.pattern := by
  have noParameters : rule.parameters = [] := by simpa [TypeRule.isFull] using isFull
  have noRenames : rule.positionalNames = ⟨[]⟩ := by
    have noneIsParameter : rule.isParameter = fun _ => false := by
      funext name
      simp [isParameter, noParameters]
    simp [positionalNames, parametersInOrder, noneIsParameter]
  rw [canonicalForm, noRenames]
  exact CppType.substitute_eq_self fun _ _ => rfl

/-- Rules for exactly one type have the same pattern. -/
theorem samePattern_of_isFull
    {first second : TypeRule}
    (firstFull : first.isFull = true)
    (secondFull : second.isFull = true)
    (same : first.pattern = second.pattern) :
    first.SamePattern second := by
  constructor
  · have firstNone : first.parameters = [] := by simpa [isFull] using firstFull
    have secondNone : second.parameters = [] := by simpa [isFull] using secondFull
    rw [firstNone, secondNone]
  · rw [pattern_canonicalForm_of_isFull firstFull, pattern_canonicalForm_of_isFull secondFull, same]

end TypeRule

namespace BindingModel

/-! ## Adding rules -/

/-- The rules in a bucket. -/
def bucket
    (model : BindingModel)
    (key : String) :
    List TypeRule :=
  (model.rules.get? key).getD []

theorem rulesFor_eq_append
    (model : BindingModel)
    (name : String) :
    model.rulesFor name = model.bucket name ++ model.bucket TypeRule.wildcardKey :=
  rfl

theorem mem_allRules
    {model : BindingModel}
    {rule : TypeRule} :
    rule ∈ model.allRules ↔ ∃ entry ∈ model.rules.entries, rule ∈ entry.2 := by
  simp only [allRules, Keyed.values, List.mem_flatten, List.mem_map, exists_exists_and_eq_and]

theorem exists_entry_of_mem_bucket
    {model : BindingModel}
    {key : String}
    {rule : TypeRule}
    (stored : rule ∈ model.bucket key) :
    ∃ entry ∈ model.rules.entries, entry.1 = key ∧ entry.2 = model.bucket key := by
  cases found : model.rules.get? key with
  | none => simp [bucket, found] at stored
  | some rules => exact ⟨_, Keyed.mem_of_get?_eq_some found, rfl, by simp [bucket, found]⟩

theorem mem_allRules_of_mem_rulesFor
    {model : BindingModel}
    {name : String}
    {rule : TypeRule}
    (candidate : rule ∈ model.rulesFor name) :
    rule ∈ model.allRules := by
  rw [rulesFor_eq_append, List.mem_append] at candidate
  rw [mem_allRules]
  rcases candidate with stored | stored
  all_goals
    obtain ⟨entry, member, _, same⟩ := exists_entry_of_mem_bucket stored
    exact ⟨entry, member, same ▸ stored⟩

theorem bucket_insert
    (model : BindingModel)
    (key : String)
    (rules : List TypeRule)
    (other : String) :
    ({ model with rules := model.rules.insert key rules } : BindingModel).bucket other =
      if other = key then rules else model.bucket other := by
  rw [bucket, Keyed.get?_insert]
  split
  · rfl
  · rfl

theorem findSamePattern?_eq_none_iff
    {rule : TypeRule}
    {rules : List TypeRule} :
    findSamePattern? rule rules = none ↔ ∀ existing ∈ rules, ¬ existing.SamePattern rule := by
  simp [findSamePattern?, TypeRule.SamePattern]

/-- A rule that is accepted is known and changes nothing, or goes to the end of its bucket. -/
theorem addRule_accepted
    {rule : TypeRule}
    {model reached : BindingModel}
    (accepted : addRule rule model = .ok () reached) :
    (∃ existing,
        findSamePattern? rule (model.bucket rule.bucketKey) = some existing ∧
          existing.canonicalForm = rule.canonicalForm ∧
          reached = model) ∨
      (findSamePattern? rule (model.bucket rule.bucketKey) = none ∧
        reached =
          { model with
            rules :=
              model.rules.insert rule.bucketKey (model.bucket rule.bucketKey ++ [rule]) }) := by
  rw [addRule, Change.get_bind] at accepted
  cases found : findSamePattern? rule (model.bucket rule.bucketKey) with
  | some existing =>
      rw [bucket] at found
      simp only [found] at accepted
      split at accepted
      · rename_i same
        cases accepted
        exact .inl ⟨existing, rfl, same, rfl⟩
      · cases accepted
  | none =>
      rw [bucket] at found
      simp only [found] at accepted
      cases accepted
      exact .inr ⟨rfl, rfl⟩

/-- The rules of a list that go into a bucket of a model: those that belong there and whose
pattern is new to it. -/
def newRules
    (model : BindingModel)
    (rules : List TypeRule)
    (key : String) :
    List TypeRule :=
  rules.filter fun rule =>
    rule.bucketKey == key && (findSamePattern? rule (model.bucket key)).isNone

/-- Each bucket of a model got the new rules of a list at its end, and no two of these have the
same pattern. -/
structure TakesIn
    (rules : List TypeRule)
    (model reached : BindingModel) : Prop where
  others : reached = { model with rules := reached.rules }
  bucket : ∀ key, reached.bucket key = model.bucket key ++ model.newRules rules key
  apart :
    ∀ key, (model.newRules rules key).Pairwise fun first second => ¬ first.SamePattern second

theorem newRules_append_singleton
    (model : BindingModel)
    (rules : List TypeRule)
    (rule : TypeRule)
    (key : String) :
    model.newRules (rules ++ [rule]) key =
      model.newRules rules key ++
        if rule.bucketKey = key ∧ findSamePattern? rule (model.bucket key) = none then [rule]
        else [] := by
  simp [newRules, List.filter_append, List.filter_singleton]

namespace TakesIn

variable {rules : List TypeRule} {rule : TypeRule} {model between reached : BindingModel}

theorem findSamePattern?_eq
    (takesIn : TakesIn rules model between)
    (rule : TypeRule) :
    findSamePattern? rule (between.bucket rule.bucketKey) =
      (findSamePattern? rule (model.bucket rule.bucketKey)).or
        (findSamePattern? rule (model.newRules rules rule.bucketKey)) := by
  rw [takesIn.bucket]
  exact List.find?_append

/-- A rule with a pattern that was known from the start is not new. -/
theorem append_of_known
    (takesIn : TakesIn rules model between)
    (known : findSamePattern? rule (model.bucket rule.bucketKey) ≠ none) :
    TakesIn (rules ++ [rule]) model between := by
  have unchanged : ∀ key, model.newRules (rules ++ [rule]) key = model.newRules rules key := by
    intro key
    rw [newRules_append_singleton, if_neg, List.append_nil]
    rintro ⟨rfl, unknown⟩
    exact known unknown
  exact
    { others := takesIn.others
      bucket := fun key => by rw [unchanged, takesIn.bucket]
      apart := fun key => by
        rw [unchanged]
        exact takesIn.apart key }

/-- A rule with a pattern of its own stands at the end of its bucket. -/
theorem append_of_unknown
    (takesIn : TakesIn rules model between)
    (unknown : findSamePattern? rule (model.bucket rule.bucketKey) = none)
    (unlisted : findSamePattern? rule (model.newRules rules rule.bucketKey) = none) :
    TakesIn (rules ++ [rule]) model
      { between with
        rules :=
          between.rules.insert rule.bucketKey (between.bucket rule.bucketKey ++ [rule]) } := by
  constructor
  · rw [takesIn.others]
  · intro key
    rw [bucket_insert, newRules_append_singleton]
    by_cases same : key = rule.bucketKey
    · subst same
      rw [if_pos rfl, if_pos ⟨rfl, unknown⟩, takesIn.bucket, List.append_assoc]
    · rw [if_neg same, if_neg fun found => same found.1.symm, List.append_nil, takesIn.bucket]
  · intro key
    rw [newRules_append_singleton]
    split
    · rename_i added
      obtain ⟨rfl, _⟩ := added
      refine List.pairwise_append.mpr ⟨takesIn.apart _, List.pairwise_singleton .., ?_⟩
      intro first listed second isRule
      rw [List.mem_singleton.mp isRule]
      exact findSamePattern?_eq_none_iff.mp unlisted first listed
    · rw [List.append_nil]
      exact takesIn.apart key

/-- Adding a rule after others that are taken in and none of which has its canonical form. -/
theorem addRule
    (takesIn : TakesIn rules model between)
    (distinct : ∀ other ∈ rules, other.canonicalForm ≠ rule.canonicalForm)
    (accepted : BindingModel.addRule rule between = .ok () reached) :
    TakesIn (rules ++ [rule]) model reached := by
  rcases addRule_accepted accepted with ⟨existing, found, same, rfl⟩ | ⟨isNew, rfl⟩
  · -- The rule that is met cannot be one of the list, so that it was in the bucket from the start.
    refine takesIn.append_of_known fun unknown => ?_
    rw [takesIn.findSamePattern?_eq, unknown, Option.none_or] at found
    have listed := List.mem_of_find?_eq_some found
    exact distinct existing (List.mem_filter.mp listed).1 same
  · rw [takesIn.findSamePattern?_eq, Option.or_eq_none_iff] at isNew
    exact takesIn.append_of_unknown isNew.1 isNew.2

end TakesIn

/-- Adding rules no two of which have the same canonical form takes them in. -/
theorem takesIn_of_accepted
    {rules : List TypeRule}
    {model reached : BindingModel}
    (distinct : rules.Pairwise fun first second => first.canonicalForm ≠ second.canonicalForm)
    (accepted : forAll addRule rules model = .ok () reached) :
    TakesIn rules model reached := by
  induction rules using List.reverseRecOn generalizing reached with
  | nil =>
      cases accepted
      exact
        { others := rfl
          bucket := fun key => (List.append_nil _).symm
          apart := fun key => .nil }
  | append_singleton rules rule inductionHypothesis =>
      obtain ⟨earlierDistinct, _, fromRule⟩ := List.pairwise_append.mp distinct
      rw [← Change.after?_eq_some_iff, Change.after?_forAll_append,
        Option.bind_eq_some_iff] at accepted
      obtain ⟨between, earlier, added⟩ := accepted
      rw [Change.after?_eq_some_iff] at earlier
      rw [Change.after?_forAll_cons] at added
      replace added := Change.after?_eq_some_iff.mp ((Option.bind_fun_some _).symm.trans added)
      exact (inductionHypothesis earlierDistinct earlier).addRule
        (fun other listed => fromRule other listed rule (List.mem_singleton_self rule)) added

/-! ## Steps that leave the rules alone -/

section Preserves

open Change

variable {Holds : Keyed (List TypeRule) → Prop}

/-- What holds of the rules is kept by a registration if it is kept when a rule is added. -/
theorem preserves_rules_perform
    (registration : Registration)
    (addition :
      ∀ rule,
        registration = .addRule rule →
        Preserves (fun model => Holds model.rules) (addRule rule)) :
    Preserves (fun model => Holds model.rules) registration.perform := by
  refine registration.preserves_perform (preserves_moduleEntry fun _ _ _ holds => holds)
    (preserves_classEntry fun _ _ _ _ holds => holds)
    (preserves_enumEntry fun _ _ _ holds => holds) ?_ ?_ ?_ addition
  · exact fun cppName change _ => preserves_inModule (fun _ _ _ holds => holds) cppName change
  · exact fun shadowKey cppType location change _ =>
      preserves_inClass (fun _ _ _ _ holds => holds) shadowKey cppType location change
  · exact fun cppName _ _ _ _ _ => preserves_inEnum (fun _ _ _ holds => holds) cppName _

/-- What holds of the rules is kept by merging if it is kept when a rule is added. -/
theorem preserves_rules_merge
    (incoming : BindingModel)
    (addition :
      ∀ rule ∈ incoming.allRules, Preserves (fun model => Holds model.rules) (addRule rule)) :
    Preserves (fun model => Holds model.rules) incoming.merge := by
  refine preserves_merge ?_ ?_ ?_ addition
  · exact fun _ _ => preserves_inModule (fun _ _ _ holds => holds) _ _
  · exact fun _ _ => preserves_inClass (fun _ _ _ _ holds => holds) _ _ _ _
  · exact fun _ _ => preserves_inEnum (fun _ _ _ holds => holds) _ _

end Preserves

end BindingModel

end BindingStubs
