import BindingStubs.Proofs.Resolution.Specificity
import BindingStubs.Resolution.Resolver
import Mathlib.Data.List.Find
import Mathlib.Data.List.Perm.Basic

namespace BindingStubs.Resolution

/-!
# The choice of a rule

The rules that are candidates for a type decide together what becomes of it: none of them
matches, one is applied, or several match and none is the most specific.  A rule with parameters
is applied exactly if it is more specific than all others that match, so that at most one is, and
the order of the candidates does not matter.
-/

/-- What rules make of a type. -/
inductive RuleChoice where
  | unmatched
  | applied (rule : TypeRule) (bindings : Bindings)
  | ambiguous (candidates : List TypeRule)

/-- The choice among the rules with parameters that match a type. -/
def chooseMostSpecific
    (found : List (TypeRule × Bindings)) :
    RuleChoice :=
  if found.isEmpty then .unmatched
  else
    match (Specificity.mostSpecific? (found.map Prod.fst)).bind (found[·]?) with
    | some (rule, bindings) => .applied rule bindings
    | none => .ambiguous (found.map Prod.fst)

/-- The choice among all candidates, of which one for exactly this type comes first. -/
def chooseRule
    (rules : List TypeRule)
    (type : CppType) :
    RuleChoice :=
  match rules.find? fun rule => rule.isFull && rule.pattern == type with
  | some rule => .applied rule {}
  | none => chooseMostSpecific (partialMatches rules type)

/-- Render a type as it was chosen. -/
def RuleChoice.perform
    (resolvePart : CppType → Resolving String)
    (type : CppType) :
    RuleChoice → Resolving (Option String)
  | .unmatched => return none
  | .applied rule bindings => return some (← applyRule resolvePart rule bindings)
  | .ambiguous candidates =>
      throw (.ambiguous type.text (candidates.map TypeRule.describe))

/-- Rendering by rules is choosing a rule and rendering by it. -/
theorem byRules?_eq
    (resolvePart : CppType → Resolving String)
    (context : ResolutionScope)
    (type : CppType) :
    byRules? resolvePart context type =
      (chooseRule (context.model.rulesFor type.name) type).perform resolvePart type := by
  rw [byRules?, chooseRule]
  cases (context.model.rulesFor type.name).find? fun rule => rule.isFull && rule.pattern == type with
  | some rule => rfl
  | none =>
      simp only [chooseMostSpecific]
      generalize partialMatches (context.model.rulesFor type.name) type = found
      cases found.isEmpty with
      | true => rfl
      | false =>
          simp only [Bool.false_eq_true, ↓reduceIte]
          cases (Specificity.mostSpecific? (found.map Prod.fst)).bind (found[·]?) with
          | none => simp [RuleChoice.perform, List.map_map, Function.comp_def]
          | some entry => rfl

/-! ## The most specific rule -/

/-- An entry whose rule is more specific than the rules of all other entries. -/
def Outstanding
    (found : List (TypeRule × Bindings))
    (entry : TypeRule × Bindings) :
    Prop :=
  ∃ others,
    found.Perm (entry :: others) ∧
      ∀ other ∈ others, Specificity.compare entry.1 other.1 = .more

/-- No two entries are more specific than each other. -/
theorem Outstanding.unique
    {found : List (TypeRule × Bindings)}
    {entry entry' : TypeRule × Bindings}
    (outstanding : Outstanding found entry)
    (outstanding' : Outstanding found entry') :
    entry = entry' := by
  obtain ⟨others, permutation, more⟩ := outstanding
  obtain ⟨others', permutation', more'⟩ := outstanding'
  by_contra differ
  have inOthers : entry' ∈ others := by
    have isFound : entry' ∈ found := permutation'.mem_iff.mpr (List.mem_cons_self ..)
    exact (List.mem_cons.mp (permutation.mem_iff.mp isFound)).resolve_left (Ne.symm differ)
  have inOthers' : entry ∈ others' := by
    have isFound : entry ∈ found := permutation.mem_iff.mpr (List.mem_cons_self ..)
    exact (List.mem_cons.mp (permutation'.mem_iff.mp isFound)).resolve_left differ
  have mirrored := Specificity.compare_mirror entry.1 entry'.1
  rw [more' entry inOthers', more entry' inOthers] at mirrored
  cases mirrored

theorem Outstanding.perm
    {found permuted : List (TypeRule × Bindings)}
    {entry : TypeRule × Bindings}
    (permutation : found.Perm permuted)
    (outstanding : Outstanding found entry) :
    Outstanding permuted entry := by
  obtain ⟨others, isFound, more⟩ := outstanding
  exact ⟨others, permutation.symm.trans isFound, more⟩

theorem isMostSpecific_iff
    {found : List (TypeRule × Bindings)}
    {rule : TypeRule}
    {position : Nat} :
    Specificity.isMostSpecific (found.map Prod.fst) rule position = true ↔
      ∀ other ∈ found.eraseIdx position, Specificity.compare rule other.1 = .more := by
  simp only [Specificity.isMostSpecific, List.all_eq_true, Bool.or_eq_true, beq_iff_eq,
    List.mem_eraseIdx_iff_getElem?]
  constructor
  · rintro each other ⟨place, elsewhere, atPlace⟩
    have isListed : (other.1, place) ∈ (found.map Prod.fst).zipIdx := by
      rw [List.mk_mem_zipIdx_iff_getElem?, List.getElem?_map, atPlace]
      rfl
    exact (each (other.1, place) isListed).resolve_left elsewhere
  · rintro each ⟨other, place⟩ isListed
    rw [List.mk_mem_zipIdx_iff_getElem?, List.getElem?_map, Option.map_eq_some_iff] at isListed
    obtain ⟨entry, atPlace, rfl⟩ := isListed
    rw [or_iff_not_imp_left]
    intro elsewhere
    exact each entry ⟨place, elsewhere, atPlace⟩

/-- An entry is outstanding if its rule is the most specific in its place. -/
theorem outstanding_iff_exists_position
    {found : List (TypeRule × Bindings)}
    {entry : TypeRule × Bindings} :
    Outstanding found entry ↔
      ∃ position,
        found[position]? = some entry ∧
          Specificity.isMostSpecific (found.map Prod.fst) entry.1 position = true := by
  simp only [isMostSpecific_iff]
  constructor
  · rintro ⟨others, permutation, more⟩
    obtain ⟨position, inRange, isEntry⟩ :=
      List.getElem_of_mem (permutation.mem_iff.mpr (List.mem_cons_self ..))
    have rest : (found.eraseIdx position).Perm others := by
      have whole := (List.getElem_cons_eraseIdx_perm inRange).trans permutation
      rw [isEntry] at whole
      exact whole.cons_inv
    refine ⟨position, List.getElem?_eq_some_iff.mpr ⟨inRange, isEntry⟩, fun other member => ?_⟩
    exact more other (rest.mem_iff.mp member)
  · rintro ⟨position, atPosition, more⟩
    obtain ⟨inRange, rfl⟩ := List.getElem?_eq_some_iff.mp atPosition
    exact ⟨found.eraseIdx position, (List.getElem_cons_eraseIdx_perm inRange).symm, more⟩

/-- The position of the most specific rule is the first one of a rule that is outstanding. -/
theorem mostSpecific?_eq
    (found : List (TypeRule × Bindings)) :
    (Specificity.mostSpecific? (found.map Prod.fst)).bind (found[·]?) =
      (found.zipIdx.find? fun entry =>
        Specificity.isMostSpecific (found.map Prod.fst) entry.1.1 entry.2).map Prod.fst := by
  rw [Specificity.mostSpecific?, List.zipIdx_map, List.find?_map, Option.map_map, Option.bind_map]
  simp only [Function.comp_def, Prod.map_fst, Prod.map_snd, id]
  cases isFirst :
      found.zipIdx.find? fun entry =>
        Specificity.isMostSpecific (found.map Prod.fst) entry.1.1 entry.2 with
  | none => rfl
  | some first =>
      have isListed := List.mem_of_find?_eq_some isFirst
      rw [List.mem_zipIdx_iff_getElem?] at isListed
      exact isListed

theorem mostSpecific?_bind_eq_some_iff
    {found : List (TypeRule × Bindings)}
    {entry : TypeRule × Bindings} :
    (Specificity.mostSpecific? (found.map Prod.fst)).bind (found[·]?) = some entry ↔
      Outstanding found entry := by
  rw [mostSpecific?_eq, Option.map_eq_some_iff]
  have sound :
      ∀ {first},
        (found.zipIdx.find? fun entry =>
          Specificity.isMostSpecific (found.map Prod.fst) entry.1.1 entry.2) = some first →
        Outstanding found first.1 := by
    intro first isFirst
    have isListed := List.mem_of_find?_eq_some isFirst
    rw [List.mem_zipIdx_iff_getElem?] at isListed
    exact outstanding_iff_exists_position.mpr
      ⟨first.2, isListed, List.find?_eq_some_iff_append.mp isFirst |>.1⟩
  constructor
  · rintro ⟨first, isFirst, rfl⟩
    exact sound isFirst
  · intro outstanding
    obtain ⟨position, atPosition, isMost⟩ := outstanding_iff_exists_position.mp outstanding
    have isListed : (entry, position) ∈ found.zipIdx :=
      List.mk_mem_zipIdx_iff_getElem?.mpr atPosition
    obtain ⟨first, isFirst⟩ :=
      Option.isSome_iff_exists.mp
        ((List.find?_isSome (p := fun entry : (TypeRule × Bindings) × Nat =>
          Specificity.isMostSpecific (found.map Prod.fst) entry.1.1 entry.2)).mpr
            ⟨_, isListed, isMost⟩)
    exact ⟨first, isFirst, (sound isFirst).unique outstanding⟩

theorem chooseMostSpecific_eq_applied_iff
    {found : List (TypeRule × Bindings)}
    {rule : TypeRule}
    {bindings : Bindings} :
    chooseMostSpecific found = .applied rule bindings ↔ Outstanding found (rule, bindings) := by
  rw [← mostSpecific?_bind_eq_some_iff, chooseMostSpecific]
  cases found with
  | nil => simp
  | cons first rest =>
      cases (Specificity.mostSpecific? ((first :: rest).map Prod.fst)).bind ((first :: rest)[·]?) with
      | none => simp
      | some entry => simp [Prod.ext_iff]

theorem chooseMostSpecific_eq_ambiguous_iff
    {found : List (TypeRule × Bindings)}
    {candidates : List TypeRule} :
    chooseMostSpecific found = .ambiguous candidates ↔
      found ≠ [] ∧ candidates = found.map Prod.fst ∧ ∀ entry, ¬ Outstanding found entry := by
  simp only [← mostSpecific?_bind_eq_some_iff, chooseMostSpecific]
  cases found with
  | nil => simp
  | cons first rest =>
      cases (Specificity.mostSpecific? ((first :: rest).map Prod.fst)).bind ((first :: rest)[·]?) with
      | none => simp [eq_comm]
      | some entry => simp

theorem mem_partialMatches_iff
    {rules : List TypeRule}
    {type : CppType}
    {rule : TypeRule}
    {bindings : Bindings} :
    (rule, bindings) ∈ partialMatches rules type ↔
      rule ∈ rules ∧
        rule.isFull = false ∧
        Matching.match? rule.parameters rule.pattern type = some bindings := by
  rw [partialMatches, List.mem_filterMap]
  constructor
  · rintro ⟨candidate, member, matched⟩
    split at matched
    · cases matched
    · rename_i notFull
      obtain ⟨found, isFound, same⟩ := Option.map_eq_some_iff.mp matched
      obtain ⟨rfl, rfl⟩ := Prod.mk.inj same
      exact ⟨member, by simpa using notFull, isFound⟩
  · rintro ⟨member, notFull, isFound⟩
    exact ⟨rule, member, by simp [notFull, isFound]⟩

/-- A rule that is applied is a candidate for exactly this type, or one that matches it. -/
theorem chooseRule_eq_applied
    {rules : List TypeRule}
    {type : CppType}
    {rule : TypeRule}
    {bindings : Bindings}
    (chosen : chooseRule rules type = .applied rule bindings) :
    rule ∈ rules ∧
      (rule.isFull = true ∧ rule.pattern = type ∧ bindings = {} ∨
        rule.isFull = false ∧
          Matching.match? rule.parameters rule.pattern type = some bindings) := by
  rw [chooseRule] at chosen
  cases found : rules.find? fun rule => rule.isFull && rule.pattern == type with
  | some full =>
      simp only [found] at chosen
      cases chosen
      have isFound := List.find?_some found
      simp only [Bool.and_eq_true, beq_iff_eq] at isFound
      exact ⟨List.mem_of_find?_eq_some found, .inl ⟨isFound.1, isFound.2, rfl⟩⟩
  | none =>
      simp only [found] at chosen
      obtain ⟨others, permutation, _⟩ := chooseMostSpecific_eq_applied_iff.mp chosen
      have member := mem_partialMatches_iff.mp (permutation.mem_iff.mpr (List.mem_cons_self ..))
      exact ⟨member.1, .inr member.2⟩

/-- A rule without parameters matches its type alone, any other what its pattern can become. -/
def Matches
    (rule : TypeRule)
    (type : CppType) :
    Prop :=
  if rule.isFull then rule.pattern = type
  else (Matching.match? rule.parameters rule.pattern type).isSome

instance
    (rule : TypeRule)
    (type : CppType) :
    Decidable (Matches rule type) :=
  inferInstanceAs (Decidable (ite _ _ _))

/-- Nothing is chosen where no candidate matches. -/
theorem chooseRule_eq_unmatched
    {rules : List TypeRule}
    {type : CppType}
    (noneMatches : ∀ rule ∈ rules, ¬ Matches rule type) :
    chooseRule rules type = .unmatched := by
  have noFull : (rules.find? fun rule => rule.isFull && rule.pattern == type) = none := by
    rw [List.find?_eq_none]
    intro rule member
    rw [Bool.and_eq_true, beq_iff_eq]
    rintro ⟨isFull, isPattern⟩
    apply noneMatches rule member
    rw [Matches, if_pos isFull]
    exact isPattern
  have noPartial : partialMatches rules type = [] := by
    rw [List.eq_nil_iff_forall_not_mem]
    rintro ⟨rule, bindings⟩ member
    obtain ⟨isCandidate, notFull, matched⟩ := mem_partialMatches_iff.mp member
    apply noneMatches rule isCandidate
    rw [Matches, if_neg (by simp [notFull]), matched]
    rfl
  rw [chooseRule, noFull, noPartial]
  rfl

/-! ## The order of candidates -/

/-- The same choice, but for the order in which the candidates of an ambiguity are listed. -/
inductive RuleChoice.SameUpToOrder : RuleChoice → RuleChoice → Prop where
  | same (choice : RuleChoice) : SameUpToOrder choice choice
  | ambiguous {candidates permuted : List TypeRule} :
      candidates.Perm permuted →
      SameUpToOrder (.ambiguous candidates) (.ambiguous permuted)

theorem chooseMostSpecific_perm
    {found permuted : List (TypeRule × Bindings)}
    (permutation : found.Perm permuted) :
    (chooseMostSpecific found).SameUpToOrder (chooseMostSpecific permuted) := by
  cases chosen : chooseMostSpecific found with
  | unmatched =>
      have isNil : found = [] := by
        cases found with
        | nil => rfl
        | cons first rest =>
            simp only [chooseMostSpecific, List.isEmpty_cons, Bool.false_eq_true,
              ↓reduceIte] at chosen
            split at chosen <;> cases chosen
      subst isNil
      rw [List.nil_perm.mp permutation, ← chosen]
      exact .same _
  | applied rule bindings =>
      have outstanding := (chooseMostSpecific_eq_applied_iff.mp chosen).perm permutation
      rw [chooseMostSpecific_eq_applied_iff.mpr outstanding]
      exact .same _
  | ambiguous candidates =>
      obtain ⟨occupied, rfl, none⟩ := chooseMostSpecific_eq_ambiguous_iff.mp chosen
      have permutedAmbiguous :
          chooseMostSpecific permuted = .ambiguous (permuted.map Prod.fst) := by
        refine chooseMostSpecific_eq_ambiguous_iff.mpr ⟨?_, rfl, ?_⟩
        · rintro rfl
          exact occupied (List.perm_nil.mp permutation)
        · exact fun entry outstanding => none entry (outstanding.perm permutation.symm)
      rw [permutedAmbiguous]
      exact .ambiguous (permutation.map Prod.fst)

/-- Candidates in another order lead to the same choice, as long as the same one comes first of
those for exactly this type. -/
theorem chooseRule_perm
    {rules permuted : List TypeRule}
    {type : CppType}
    (sameFull :
      (rules.find? fun rule => rule.isFull && rule.pattern == type) =
        permuted.find? fun rule => rule.isFull && rule.pattern == type)
    (permutation : rules.Perm permuted) :
    (chooseRule rules type).SameUpToOrder (chooseRule permuted type) := by
  rw [chooseRule, chooseRule, ← sameFull]
  cases rules.find? fun rule => rule.isFull && rule.pattern == type with
  | some rule => exact .same _
  | none => exact chooseMostSpecific_perm (permutation.filterMap _)

end BindingStubs.Resolution
