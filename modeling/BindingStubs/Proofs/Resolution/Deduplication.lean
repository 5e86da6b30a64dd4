import BindingStubs.Proofs.Model.Lookup
import BindingStubs.Proofs.Model.Members
import BindingStubs.Proofs.Model.RuleBuckets
import BindingStubs.Proofs.Resolution.Simulation
import BindingStubs.Proofs.Resolution.Termination
import BindingStubs.Proofs.Resolution.Variants
import Mathlib.Data.List.Pairwise

namespace BindingStubs

/-!
# Stored rules rank apart

Adding a rule looks for a rule with the same canonical pattern, while ranking matches patterns
against each other.  For regular rules the two agree: rules that cover each other have the same
canonical pattern and are kept in the same bucket, where only one of them is stored.  So whatever
makes a type ambiguous, it is not one pattern spelled in two ways.

The candidates for a type are the rules in the bucket of its name and those in the bucket of wildcard
rules.  A type whose name is the key of the wildcard bucket is the exception: it draws that bucket
twice, every candidate comes with a copy of itself, and one rule is enough for an ambiguity.
-/

namespace BindingModel

open Change

/-! ## The rules that a model stores -/

/-- Rules that are all allowed and kept apart in their buckets. -/
structure StoresApart
    (Allowed : TypeRule → Prop)
    (rules : Keyed (List TypeRule)) : Prop where
  allowed : ∀ entry ∈ rules.entries, ∀ rule ∈ entry.2, Allowed rule
  tidy : Members.buckets.Tidy rules.entries

/-- The models that registrations and merges lead to, with rules that are all allowed.  A step that
is refused leads to what it leaves behind. -/
inductive ReachedOver
    (Allowed : TypeRule → Prop) : BindingModel → Prop where
  | empty : ReachedOver Allowed empty
  | register {model : BindingModel} (registration : Registration) :
      (∀ rule, registration = .addRule rule → Allowed rule) →
      ReachedOver Allowed model →
      ReachedOver Allowed (left registration.perform model)
  | merge {model incoming : BindingModel} :
      ReachedOver Allowed model →
      ReachedOver Allowed incoming →
      ReachedOver Allowed (left incoming.merge model)

section Storing

variable {Allowed : TypeRule → Prop}

theorem preserves_storesApart_addRule
    {rule : TypeRule}
    (allowed : Allowed rule) :
    Preserves (fun model => StoresApart Allowed model.rules) (addRule rule) := by
  intro model stores
  rw [left_addRule_eq]
  cases accepted : after? (addRule rule) model with
  | none => exact stores
  | some reached =>
      refine ⟨fun entry member other stored => ?_, ?_⟩
      · rcases addRule_accepted (after?_eq_some_iff.mp accepted) with ⟨_, _, _, rfl⟩ | ⟨_, rfl⟩
        · exact stores.allowed entry member other stored
        · rcases Keyed.mem_entries_insert member with former | rfl
          · exact stores.allowed entry former other stored
          · rw [List.mem_append, List.mem_singleton] at stored
            rcases stored with former | rfl
            · obtain ⟨bucket, isBucket, _, same⟩ := exists_entry_of_mem_bucket former
              exact stores.allowed bucket isBucket other (same ▸ former)
            · exact allowed
      · rw [Members.after?_addRule, Option.map_eq_some_iff] at accepted
        obtain ⟨entries, inserted, rfl⟩ := accepted
        refine Members.lawful_buckets.insert?_tidy stores.tidy ?_ inserted
        simp [Members.FillsBucket]

/-- Whatever is registered and merged, the rules of a model are allowed and kept apart. -/
theorem ReachedOver.storesApart
    {model : BindingModel}
    (reached : ReachedOver Allowed model) :
    StoresApart Allowed model.rules := by
  induction reached with
  | empty => exact ⟨fun _ member => absurd member List.not_mem_nil, Joining.tidy_nil _⟩
  | register registration allowed _ inductionHypothesis =>
      refine preserves_rules_perform registration ?_ _ inductionHypothesis
      exact fun rule isRule => preserves_storesApart_addRule (allowed rule isRule)
  | @merge model incoming _ _ inductionHypothesis incomingHypothesis =>
      refine preserves_rules_merge incoming (fun rule stored => ?_) _ inductionHypothesis
      obtain ⟨entry, member, inBucket⟩ := mem_allRules.mp stored
      exact preserves_storesApart_addRule (incomingHypothesis.allowed entry member rule inBucket)

end Storing

/-! ## Ranking the rules of a model -/

section Ranking

variable
  {Allowed : TypeRule → Prop}
  {rules : Keyed (List TypeRule)}

/-- Rules that do not meet in a bucket have different patterns. -/
theorem not_samePattern_of_not_meets
    {first second : TypeRule}
    (apart : Members.rules.meets first second = false) :
    ¬ first.SamePattern second := by
  intro same
  have differ := of_decide_eq_false apart
  exact differ (Prod.ext same.1 same.2)

/-- In one bucket, no two rules compare equal. -/
theorem StoresApart.pairwise_entry
    (stores : StoresApart TypeRule.Regular rules)
    {entry : String × List TypeRule}
    (member : entry ∈ rules.entries) :
    entry.2.Pairwise fun first second => Specificity.compare first second ≠ .equal := by
  have tidy := (Members.valid_bucket_iff.mp (stores.tidy.valid entry member)).1
  refine tidy.apart.imp_of_mem fun {first second} stored stored' apart equal => ?_
  have regular := stores.allowed entry member first stored
  have regular' := stores.allowed entry member second stored'
  exact not_samePattern_of_not_meets apart
    (regular.samePattern_of_compare_eq_equal regular' equal).1

/-- Rules of different buckets do not compare equal. -/
theorem StoresApart.compare_ne_equal
    (stores : StoresApart TypeRule.Regular rules)
    {entry entry' : String × List TypeRule}
    (member : entry ∈ rules.entries)
    (member' : entry' ∈ rules.entries)
    (apart : entry.1 ≠ entry'.1)
    {first second : TypeRule}
    (stored : first ∈ entry.2)
    (stored' : second ∈ entry'.2) :
    Specificity.compare first second ≠ .equal := by
  intro equal
  have fills := (Members.valid_bucket_iff.mp (stores.tidy.valid entry member)).2
  have fills' := (Members.valid_bucket_iff.mp (stores.tidy.valid entry' member')).2
  have regular := stores.allowed entry member first stored
  have regular' := stores.allowed entry' member' second stored'
  apply apart
  rw [← fills.2 first stored, ← fills'.2 second stored']
  exact (regular.samePattern_of_compare_eq_equal regular' equal).2

variable {model : BindingModel}

/-- No two stored rules compare equal. -/
theorem StoresApart.pairwise_allRules
    (stores : StoresApart TypeRule.Regular model.rules) :
    model.allRules.Pairwise fun first second => Specificity.compare first second ≠ .equal := by
  rw [allRules, Keyed.values, List.pairwise_flatten, List.pairwise_map]
  constructor
  · intro bucket isBucket
    obtain ⟨entry, member, rfl⟩ := List.mem_map.mp isBucket
    exact stores.pairwise_entry member
  · refine stores.tidy.apart.imp_of_mem fun {entry entry'} member member' apart first stored second
      stored' => ?_
    exact stores.compare_ne_equal member member' (beq_eq_false_iff_ne.mp apart) stored stored'

/-- The candidates for a type come from two buckets and do not compare equal, unless the type is
named like the bucket of wildcard rules and draws that bucket twice. -/
theorem StoresApart.pairwise_rulesFor
    (stores : StoresApart TypeRule.Regular model.rules)
    {name : String}
    (named : name ≠ TypeRule.wildcardKey) :
    (model.rulesFor name).Pairwise fun first second =>
      Specificity.compare first second ≠ .equal := by
  have within (key : String) :
      (model.bucket key).Pairwise fun first second => Specificity.compare first second ≠ .equal := by
    cases found : model.rules.get? key with
    | none => simp [bucket, found]
    | some rules =>
        rw [bucket, found]
        exact stores.pairwise_entry (Keyed.mem_of_get?_eq_some found)
  rw [rulesFor_eq_append]
  refine List.pairwise_append.mpr ⟨within name, within TypeRule.wildcardKey, ?_⟩
  intro first stored second stored'
  obtain ⟨entry, member, isNamed, same⟩ := exists_entry_of_mem_bucket stored
  obtain ⟨entry', member', isWildcard, same'⟩ := exists_entry_of_mem_bucket stored'
  rw [← same] at stored
  rw [← same'] at stored'
  exact stores.compare_ne_equal member member' (isNamed ▸ isWildcard ▸ named) stored stored'

/-- Stored rules that compare equal are the same rule. -/
theorem StoresApart.eq_of_compare_eq_equal
    (stores : StoresApart TypeRule.Regular model.rules)
    {first second : TypeRule}
    (stored : first ∈ model.allRules)
    (stored' : second ∈ model.allRules)
    (equal : Specificity.compare first second = .equal) :
    first = second := by
  by_contra differ
  have symmetric :
      Std.Symm fun first second : TypeRule => Specificity.compare first second ≠ .equal := by
    refine ⟨fun first second apart equal => apart ?_⟩
    rw [Specificity.compare_mirror, equal]
    rfl
  exact stores.pairwise_allRules.forall stored stored' differ equal

end Ranking

end BindingModel

/-! ## Where ambiguities come from -/

namespace Resolution

open BindingModel

/-- A fault that, if it is an ambiguity, lists the candidates that a choice of a rule left. -/
def Accounted
    (model : BindingModel)
    (fault : Fault) :
    Prop :=
  ∀ text descriptions,
    fault = .ambiguous text descriptions →
    ∃ part candidates,
      text = CppType.text part ∧
        descriptions = candidates.map TypeRule.describe ∧
        chooseRule (model.rulesFor part.name) part = .ambiguous candidates

/-- Every ambiguity that resolution meets comes from the choice of a rule. -/
theorem accounted_of_resolve
    {model : BindingModel}
    {scope : Option String}
    {type : CppType}
    {prelude after : List String}
    {fault : Fault}
    (refused : resolve { model, scope } type prelude = .error fault after) :
    Accounted model fault := by
  have alike : AnswerAlike (fun fault other => fault = other ∧ Accounted model fault) model model :=
    { entityName? := fun _ _ => rfl
      choice := by
        intro part
        cases chosen : chooseRule (model.rulesFor part.name) part with
        | unmatched => exact .unmatched
        | applied rule bindings => exact .applied rule bindings
        | ambiguous candidates =>
            refine .ambiguous ⟨rfl, fun text descriptions same => ?_⟩
            cases same
            exact ⟨part, candidates, rfl, rfl, chosen⟩
      emission := fun _ => ⟨rfl, nofun⟩
      endless := fun _ => ⟨rfl, nofun⟩ }
  have outcome := alike.agree_resolve scope type prelude
  rw [refused] at outcome
  cases outcome with
  | error _ same => exact same.2

theorem chooseRule_eq_ambiguous
    {rules candidates : List TypeRule}
    {type : CppType}
    (chosen : chooseRule rules type = .ambiguous candidates) :
    candidates = (partialMatches rules type).map Prod.fst ∧
      ∀ entry, ¬ Outstanding (partialMatches rules type) entry := by
  rw [chooseRule] at chosen
  cases found : rules.find? fun rule => rule.isFull && rule.pattern == type with
  | some full =>
      simp only [found] at chosen
      cases chosen
  | none =>
      simp only [found] at chosen
      exact (chooseMostSpecific_eq_ambiguous_iff.mp chosen).2

/-- A match is kept with the rule that matches. -/
theorem eq_of_match
    {rule : TypeRule}
    {type : CppType}
    {entry : TypeRule × Bindings}
    (matched :
      (if rule.isFull then none
        else (Matching.match? rule.parameters rule.pattern type).map fun bindings =>
          (rule, bindings)) = some entry) :
    rule = entry.1 := by
  split at matched
  · cases matched
  · obtain ⟨bindings, _, rfl⟩ := Option.map_eq_some_iff.mp matched
    rfl

theorem mem_of_mem_partialMatches
    {rules : List TypeRule}
    {type : CppType}
    {entry : TypeRule × Bindings}
    (found : entry ∈ partialMatches rules type) :
    entry.1 ∈ rules := by
  obtain ⟨rule, candidate, matched⟩ := List.mem_filterMap.mp found
  exact eq_of_match matched ▸ candidate

/-- The matches for a type that is named like the bucket of wildcard rules come twice. -/
theorem partialMatches_wildcardKey
    (model : BindingModel)
    (type : CppType) :
    partialMatches (model.rulesFor TypeRule.wildcardKey) type =
      partialMatches (model.bucket TypeRule.wildcardKey) type ++
        partialMatches (model.bucket TypeRule.wildcardKey) type := by
  rw [rulesFor_eq_append]
  exact List.filterMap_append

theorem pairwise_partialMatches
    {rules : List TypeRule}
    {type : CppType}
    (apart : rules.Pairwise fun first second => Specificity.compare first second ≠ .equal) :
    (partialMatches rules type).Pairwise fun one other =>
      Specificity.compare one.1 other.1 ≠ .equal := by
  refine apart.filterMap _ fun first second apart one matched other matched' => ?_
  rwa [← eq_of_match matched, ← eq_of_match matched']

/-- Without a match that outstands the others, every match is less specific than another one or
incomparable to it, unless rules among the matches compare equal. -/
theorem exists_not_above
    {found : List (TypeRule × Bindings)}
    (apart :
      found.Pairwise fun one other => Specificity.compare one.1 other.1 ≠ .equal)
    (noneOutstanding : ∀ entry, ¬ Outstanding found entry)
    {entry : TypeRule × Bindings}
    (isFound : entry ∈ found) :
    ∃ other ∈ found,
      Specificity.compare entry.1 other.1 = .less ∨
        Specificity.compare entry.1 other.1 = .incomparable := by
  obtain ⟨position, inRange, rfl⟩ := List.getElem_of_mem isFound
  have permutation := (List.getElem_cons_eraseIdx_perm inRange).symm
  have apartFromOthers :
      ∀ other ∈ found.eraseIdx position,
        Specificity.compare found[position].1 other.1 ≠ .equal := by
    have apartAnyOrder := apart.perm permutation fun {one other} apart equal => apart (by
      rw [Specificity.compare_mirror, equal]
      rfl)
    exact (List.pairwise_cons.mp apartAnyOrder).1
  by_contra noneAbove
  push Not at noneAbove
  refine noneOutstanding found[position] ⟨_, permutation, fun other member => ?_⟩
  have notBelow := noneAbove other (List.mem_of_mem_eraseIdx member)
  cases outcome : Specificity.compare found[position].1 other.1 with
  | more => rfl
  | less => exact absurd outcome notBelow.1
  | equal => exact absurd outcome (apartFromOthers other member)
  | incomparable => exact absurd outcome notBelow.2

/-- Where every match comes twice, none outstands the others, because it does not outstand its own
copy. -/
theorem not_outstanding_append_self
    (once : List (TypeRule × Bindings))
    (entry : TypeRule × Bindings) :
    ¬ Outstanding (once ++ once) entry := by
  rintro ⟨others, permutation, outstands⟩
  have isFound : entry ∈ once := by
    simpa using permutation.mem_iff.mpr List.mem_cons_self
  obtain ⟨before, after, rfl⟩ := List.append_of_mem isFound
  have pulledOut :
      (before ++ entry :: after ++ (before ++ entry :: after)).Perm
        (entry :: (before ++ (after ++ (before ++ entry :: after)))) := by
    rw [List.append_assoc, List.cons_append]
    exact List.perm_middle
  have isOther : entry ∈ others := by
    apply (pulledOut.symm.trans permutation).cons_inv.mem_iff.mp
    simp
  have outstandsItself := Specificity.compare_eq_more_iff.mp (outstands entry isOther)
  exact outstandsItself.2 outstandsItself.1

/-- A type that is named like the bucket of wildcard rules, and that is no entity and has no rule of
its own, is ambiguous as soon as one rule with parameters matches it. -/
theorem resolve_eq_ambiguous_of_wildcardKey
    {context : ResolutionScope}
    {type : CppType}
    (named : type.name = TypeRule.wildcardKey)
    (unregistered : entityName? context type = pure none)
    (noneExact :
      ∀ rule ∈ context.model.rulesFor TypeRule.wildcardKey, rule.isFull → rule.pattern ≠ type)
    {once : List (TypeRule × Bindings)}
    (areMatches : once = partialMatches (context.model.bucket TypeRule.wildcardKey) type)
    (occupied : once ≠ [])
    (prelude : List String) :
    resolve context type prelude =
      .error (.ambiguous type.text ((once ++ once).map fun entry => entry.1.describe)) prelude := by
  have chosen :
      chooseRule (context.model.rulesFor type.name) type =
        .ambiguous ((once ++ once).map Prod.fst) := by
    have noneFound :
        (context.model.rulesFor type.name).find?
          (fun rule => rule.isFull && rule.pattern == type) = none := by
      rw [named, List.find?_eq_none]
      intro rule candidate isExact
      rw [Bool.and_eq_true, beq_iff_eq] at isExact
      exact noneExact rule candidate isExact.1 isExact.2
    rw [chooseRule, noneFound, named, partialMatches_wildcardKey, ← areMatches]
    refine chooseMostSpecific_eq_ambiguous_iff.mpr ⟨?_, rfl, not_outstanding_append_self once⟩
    simp [occupied]
  rw [resolve_eq, resolveBy, unregistered, pure_bind]
  simp only [byRules?_eq, chosen, RuleChoice.perform, List.map_map]
  rfl

/-- The stored rules are told apart by ranking, so that a type is ambiguous because of rules that
are incomparable or because none is below all others.  The exception is a type that is named like
the bucket of wildcard rules: its candidates are listed twice, and one that is below all others
still stands beside its copy. -/
theorem stored_rules_rank_apart
    {model : BindingModel}
    (reached : ReachedOver TypeRule.Regular model) :
    (model.allRules.Pairwise fun first second => Specificity.compare first second ≠ .equal) ∧
      ∀ scope type prelude after text descriptions,
        resolve { model, scope } type prelude = .error (.ambiguous text descriptions) after →
        ∃ part candidates,
          text = CppType.text part ∧
            descriptions = candidates.map TypeRule.describe ∧
            candidates = (partialMatches (model.rulesFor part.name) part).map Prod.fst ∧
            (∀ first ∈ candidates, ∀ second ∈ candidates,
              Specificity.compare first second = .equal → first = second) ∧
            (part.name ≠ TypeRule.wildcardKey →
              ∀ candidate ∈ candidates, ∃ other ∈ candidates,
                Specificity.compare candidate other = .less ∨
                  Specificity.compare candidate other = .incomparable) ∧
            (part.name = TypeRule.wildcardKey → ∃ once, candidates = once ++ once) := by
  have stores := reached.storesApart
  refine ⟨stores.pairwise_allRules, ?_⟩
  intro scope type prelude after text descriptions refused
  obtain ⟨part, candidates, sameText, sameDescriptions, chosen⟩ :=
    accounted_of_resolve refused text descriptions rfl
  obtain ⟨areMatches, noneOutstanding⟩ := chooseRule_eq_ambiguous chosen
  have isStored : ∀ candidate ∈ candidates, candidate ∈ model.allRules := by
    intro candidate member
    rw [areMatches] at member
    obtain ⟨entry, isFound, rfl⟩ := List.mem_map.mp member
    exact mem_allRules_of_mem_rulesFor (mem_of_mem_partialMatches isFound)
  refine ⟨part, candidates, sameText, sameDescriptions, areMatches, ?_, ?_, ?_⟩
  · intro first member second member' equal
    exact stores.eq_of_compare_eq_equal (isStored first member) (isStored second member') equal
  · intro named candidate member
    rw [areMatches] at member ⊢
    obtain ⟨entry, isFound, rfl⟩ := List.mem_map.mp member
    obtain ⟨other, otherFound, notAbove⟩ :=
      exists_not_above (pairwise_partialMatches (stores.pairwise_rulesFor named)) noneOutstanding
        isFound
    exact ⟨other.1, List.mem_map_of_mem otherFound, notAbove⟩
  · intro named
    rw [named, partialMatches_wildcardKey, List.map_append] at areMatches
    exact ⟨_, areMatches⟩

/-- A rule for boxes under another parameter name is not stored beside the first, and the rule for
boxes of vectors, which is, ranks apart from it. -/
theorem stored_rules_rank_apart_for_boxes :
    let boxes := Specificity.boxRule (.plain "T")
    let respelled := { Specificity.boxRule (.plain "U") with parameters := ["U"] }
    let boxesOfVectors := Specificity.boxRule (.applied "vector" [.plain "T"])
    let first := Change.left (Registration.addRule boxes).perform empty
    let second := Change.left (Registration.addRule respelled).perform first
    let model := Change.left (Registration.addRule boxesOfVectors).perform second
    Specificity.compare boxes respelled = .equal ∧
      ReachedOver TypeRule.Regular model ∧
      model.allRules = [boxes, boxesOfVectors] ∧
      Specificity.compare boxes boxesOfVectors ≠ .equal := by
  intro boxes respelled boxesOfVectors first second model
  have reached : ReachedOver TypeRule.Regular model := by
    refine .register _ ?_ (.register _ ?_ (.register _ ?_ .empty))
    all_goals
      rintro rule isRule
      cases isRule
      decide
  have stored : model.allRules = [boxes, boxesOfVectors] := by decide +kernel
  have apart := (stored_rules_rank_apart reached).1
  rw [stored] at apart
  exact ⟨by decide +kernel, reached, stored, by simpa using apart⟩

/-- A rule for pointers is the only one that is stored, and yet it is ambiguous with itself for the
type that is named like its bucket, which is how the parameters of a function pointer are read. -/
theorem sole_rule_ambiguous_with_itself :
    let pointers := { pointerRule with rendering := "object" }
    let model := Change.left (Registration.addRule pointers).perform empty
    (FunctionType.split? "int (*)(int)".toList).map (·.parameters.map CppType.parse) =
        some [.plain TypeRule.wildcardKey] ∧
      ReachedOver TypeRule.Regular model ∧
      model.allRules = [pointers] ∧
      resolve { model } (.plain TypeRule.wildcardKey) [] =
        .error (.ambiguous "*" [pointers.describe, pointers.describe]) [] := by
  intro pointers model
  have reached : ReachedOver TypeRule.Regular model := by
    refine .register _ ?_ .empty
    rintro rule isRule
    cases isRule
    decide
  have stored : model.allRules = [pointers] := by decide +kernel
  have noClass : model.classForType? (.plain TypeRule.wildcardKey) = none := by decide +kernel
  have noEnum : model.enum? TypeRule.wildcardKey = none := by decide +kernel
  have unregistered : entityName? { model } (.plain TypeRule.wildcardKey) = pure none := by
    simp only [entityName?, noClass, noEnum]
  have noneExact :
      ∀ rule ∈ model.rulesFor TypeRule.wildcardKey,
        rule.isFull → rule.pattern ≠ .plain TypeRule.wildcardKey := by
    decide +kernel
  have matched :
      [(pointers, ⟨[("T", .plain "")]⟩)] =
        partialMatches (model.bucket TypeRule.wildcardKey) (.plain TypeRule.wildcardKey) := by
    decide +kernel
  have isText : (CppType.plain TypeRule.wildcardKey).text = "*" := by decide +kernel
  have ambiguous :=
    resolve_eq_ambiguous_of_wildcardKey rfl unregistered noneExact matched (List.cons_ne_nil _ _) []
  rw [isText] at ambiguous
  exact ⟨by decide +kernel, reached, stored, ambiguous⟩

end Resolution

end BindingStubs
