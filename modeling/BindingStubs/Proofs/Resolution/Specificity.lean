import BindingStubs.Proofs.Resolution.Matching
import BindingStubs.Resolution.Specificity
import Mathlib.Data.List.Nodup
import Mathlib.Data.Set.Lattice
import Mathlib.Order.CompletePartialOrder

namespace BindingStubs

/-!
# Specificity ranks rules by the types they match

Two rules are compared by matching each pattern once against the other pattern, with the
other's parameters held fixed under reserved names.  Provided that no pattern uses such a
name itself, this decides the inclusion of the two sets of matched types: replacing the
reserved names by what the parameters stand for turns the one match into all others.
-/

/-- The types that a rule matches. -/
def TypeRule.instances
    (rule : TypeRule) :
    Set CppType :=
  { concrete |
    (Matching.unify rule.parameters rule.pattern concrete {}).1 = true }

namespace Specificity

/-- The characters with which every name of a fixed parameter begins. -/
def reservedStart : List Char := "$opaque".toList

/-- No name in the type is kept for parameters that are held fixed. -/
def Unreserved
    (type : CppType) : Prop :=
  ∀ node ∈ type.nodes, ¬ reservedStart <+: node.name.toList

instance
    (type : CppType) :
    Decidable (Unreserved type) :=
  inferInstanceAs (Decidable (∀ node ∈ type.nodes, ¬ reservedStart <+: node.name.toList))

/-- The outcome of the comparison the other way round. -/
def mirror : Specificity → Specificity
  | .more => .less
  | .less => .more
  | .equal => .equal
  | .incomparable => .incomparable

/-- The name that stands for the parameter at a position. -/
def fixedName
    (position : Nat) :
    String :=
  "$opaque" ++ Text.ofNat position

theorem reservedStart_prefix_fixedName
    (position : Nat) :
    reservedStart <+: (fixedName position).toList := by
  rw [fixedName, String.toList_append]
  exact List.prefix_append ..

/-- Numbers tell names with the same start apart. -/
theorem append_ofNat_injective
    (start : String) :
    Function.Injective fun position => start ++ Text.ofNat position := by
  intro first second same
  have sameDigits : Nat.toDigits 10 first = Nat.toDigits 10 second := by
    simp only [← String.toList_inj, String.toList_append, List.append_cancel_left_eq] at same
    simpa [Text.ofNat, Nat.toList_repr] using same
  have sameValue := congrArg (Nat.ofDigitChars 10 · 0) sameDigits
  simpa [Nat.ofDigitChars_ten_toDigits] using sameValue

/-- A name that ends in a number carries no pointer marks. -/
theorem parts_plain_append_ofNat
    (start : String)
    (position : Nat) :
    (CppType.plain (start ++ Text.ofNat position)).baseName = start ++ Text.ofNat position ∧
      (CppType.plain (start ++ Text.ofNat position)).pointerDepth = 0 := by
  have solid :
      (start ++ Text.ofNat position).toList.getLast? ≠ some CppType.pointerMark := by
    intro atEnd
    rw [String.toList_append, List.getLast?_append, Option.or_eq_some_iff] at atEnd
    rcases atEnd with lastDigit | ⟨noDigits, _⟩
    · rw [Text.ofNat, Nat.toList_repr] at lastDigit
      have isDigit :=
        Nat.isDigit_of_mem_toDigits (by decide) (by decide)
          (List.mem_of_getLast? lastDigit)
      simp [CppType.pointerMark] at isDigit
    · simp [Text.ofNat, Nat.toList_repr, Nat.toDigits_ne_nil] at noDigits
  obtain ⟨base, levels⟩ :=
    CppType.parts_eq_of_toList_name solid
      (show (CppType.plain (start ++ Text.ofNat position)).name.toList =
          (start ++ Text.ofNat position).toList ++ List.replicate 0 CppType.pointerMark by
        simp [CppType.name])
  exact ⟨String.toList_inj.mp base, levels⟩

/-- Different positions have different fixed names. -/
theorem fixedName_injective :
    Function.Injective fixedName :=
  append_ofNat_injective _

/-- A fixed name carries no pointer marks. -/
theorem parts_plain_fixedName
    (position : Nat) :
    (CppType.plain (fixedName position)).baseName = fixedName position ∧
      (CppType.plain (fixedName position)).pointerDepth = 0 :=
  parts_plain_append_ofNat _ position

/-- Every parameter has a fixed name, which is that of a position where it stands. -/
theorem exists_position_of_get?_fixedNames
    {rule : TypeRule}
    {parameter fixed : String}
    (found : (fixedNames rule).get? parameter = some fixed) :
    ∃ position,
      (parameter, position) ∈ rule.parameters.zipIdx ∧ fixed = fixedName position := by
  obtain ⟨⟨stood, position⟩, member, shape⟩ :=
    List.mem_map.mp (Keyed.mem_of_get?_ofList found)
  cases shape
  exact ⟨position, member, rfl⟩

/-- Exactly the parameters have fixed names. -/
theorem isSome_get?_fixedNames
    {rule : TypeRule}
    {name : String} :
    ((fixedNames rule).get? name).isSome ↔ name ∈ rule.parameters := by
  constructor
  · intro isFixed
    obtain ⟨fixed, found⟩ := Option.isSome_iff_exists.mp isFixed
    obtain ⟨position, member, _⟩ := exists_position_of_get?_fixedNames found
    exact List.fst_mem_of_mem_zipIdx member
  · intro isParameter
    apply Keyed.isSome_get?_ofList
    rw [List.map_map]
    obtain ⟨position, atPosition⟩ := List.mem_iff_getElem?.mp isParameter
    exact List.mem_map.mpr
      ⟨(name, position), List.mk_mem_zipIdx_iff_getElem?.mpr atPosition, rfl⟩

/-- The bindings that hold the parameters of a rule fixed. -/
def holding
    (rule : TypeRule) :
    Bindings :=
  (fixedNames rule).map CppType.plain

theorem within_holding
    (rule : TypeRule) :
    (holding rule).Within rule.parameters := by
  intro name bound
  rw [holding, Keyed.get?_map, Option.isSome_map] at bound
  exact isSome_get?_fixedNames.mp bound

/-- The bindings that replace fixed names by what the parameters stand for. -/
def releasing
    (rule : TypeRule)
    (solution : Bindings) :
    Bindings :=
  ⟨rule.parameters.zipIdx.map fun entry => (fixedName entry.2, solution.image entry.1)⟩

/-- A fixed name is released to the image of the parameter at its position. -/
theorem get?_releasing
    {rule : TypeRule}
    {solution : Bindings}
    {parameter : String}
    {position : Nat}
    (member : (parameter, position) ∈ rule.parameters.zipIdx) :
    (releasing rule solution).get? (fixedName position) =
      some (solution.image parameter) := by
  apply Keyed.get?_eq_some_of_mem
  · have keysEq :
        (releasing rule solution).keys =
          (List.range' 0 rule.parameters.length).map fixedName := by
      simp [releasing, Keyed.keys, ← List.zipIdx_map_snd]
    rw [keysEq]
    exact (List.nodup_range' _ Nat.one_pos).map fixedName_injective
  · exact List.mem_map.mpr ⟨_, member, rfl⟩

theorem get?_releasing_eq_none
    (rule : TypeRule)
    (solution : Bindings)
    {name : String}
    (unreserved : ¬ reservedStart <+: name.toList) :
    (releasing rule solution).get? name = none := by
  rw [← Option.not_isSome_iff_eq_none]
  intro bound
  obtain ⟨type, found⟩ := Option.isSome_iff_exists.mp bound
  obtain ⟨entry, _, shape⟩ := List.mem_map.mp (Keyed.mem_of_get?_eq_some found)
  cases shape
  exact unreserved (reservedStart_prefix_fixedName entry.2)

theorem Unreserved.baseName
    {type node : CppType}
    (unreserved : Unreserved type)
    (isNode : node ∈ type.nodes) :
    ¬ reservedStart <+: node.baseName.toList := by
  intro reserved
  apply unreserved node isNode
  rw [CppType.toList_name]
  exact reserved.trans (List.prefix_append ..)

/-- Releasing the pattern that was held fixed instantiates the pattern. -/
theorem substitute_releasing
    {rule : TypeRule}
    {solution : Bindings}
    (unreserved : Unreserved rule.pattern)
    (within : solution.Within rule.parameters) :
    (rule.pattern.rename (fixedNames rule)).substitute (releasing rule solution) =
      rule.pattern.substitute solution := by
  rw [CppType.rename, ← holding, CppType.substitute_substitute]
  apply CppType.substitute_congr
  intro name isNode
  rw [Bindings.image, Bindings.get?_andThen, holding, Keyed.get?_map]
  cases found : (fixedNames rule).get? (CppType.plain name).baseName with
  | none =>
      have notParameter : (CppType.plain name).baseName ∉ rule.parameters := by
        rw [← isSome_get?_fixedNames, found]
        simp
      rw [get?_releasing_eq_none rule solution (unreserved.baseName isNode),
        Bindings.image, within.get?_eq_none notParameter]
      rfl
  | some fixed =>
      obtain ⟨position, member, rfl⟩ := exists_position_of_get?_fixedNames found
      obtain ⟨base, levels⟩ := parts_plain_fixedName position
      simp only [Option.map_some, Option.some_or, Option.getD_some]
      rw [CppType.substitute_plain, base, levels, CppType.addPointers, Bindings.image,
        get?_releasing member, Option.getD_some]

/-- A rule covers another exactly when it matches every type that the other matches. -/
theorem covers_iff_instances_subset
    {general specific : TypeRule}
    (generalUnreserved : Unreserved general.pattern)
    (specificUnreserved : Unreserved specific.pattern) :
    covers general specific = true ↔ specific.instances ⊆ general.instances := by
  constructor
  · intro covered concrete matched
    obtain ⟨cover, coverWithin, covering⟩ :=
      Matching.unify_iff_exists_substitution.mp covered
    obtain ⟨solution, within, rfl⟩ :=
      Matching.unify_iff_exists_substitution.mp matched
    apply Matching.unify_iff_exists_substitution.mpr
    -- What the cover binds still mentions fixed names; releasing those gives the solution.
    refine ⟨cover.map (CppType.substitute (releasing specific solution)), ?_, ?_⟩
    · intro name bound
      rw [Keyed.get?_map, Option.isSome_map] at bound
      exact coverWithin name bound
    · rw [← substitute_releasing specificUnreserved within, ← covering,
        CppType.substitute_substitute]
      apply CppType.substitute_congr
      intro name isNode
      rw [Bindings.image, Bindings.image, Bindings.get?_andThen,
        get?_releasing_eq_none specific solution (generalUnreserved.baseName isNode),
        Option.or_none]
      congr 1
      exact Keyed.get?_map _ cover _
  · intro included
    apply included
    exact Matching.unify_iff_exists_substitution.mpr
      ⟨holding specific, within_holding specific, rfl⟩

theorem compare_mirror
    (first second : TypeRule) :
    compare second first = (compare first second).mirror := by
  unfold compare
  cases covers second first <;> cases covers first second <;> rfl

theorem compare_eq_more_iff
    {first second : TypeRule} :
    compare first second = .more ↔
      covers second first = true ∧ ¬ covers first second = true := by
  unfold compare
  cases covers second first <;> cases covers first second <;> simp

theorem compare_eq_equal_iff
    {first second : TypeRule} :
    compare first second = .equal ↔
      covers second first = true ∧ covers first second = true := by
  unfold compare
  cases covers second first <;> cases covers first second <;> simp

/-- An unreserved rule is more specific exactly when it matches strictly fewer types. -/
theorem compare_eq_more_iff_instances
    {first second : TypeRule}
    (firstUnreserved : Unreserved first.pattern)
    (secondUnreserved : Unreserved second.pattern) :
    compare first second = .more ↔ first.instances ⊂ second.instances := by
  rw [compare_eq_more_iff, covers_iff_instances_subset secondUnreserved firstUnreserved,
    covers_iff_instances_subset firstUnreserved secondUnreserved, Set.ssubset_def]

/-- Unreserved rules rank equal exactly when they match the same types. -/
theorem compare_eq_equal_iff_instances
    {first second : TypeRule}
    (firstUnreserved : Unreserved first.pattern)
    (secondUnreserved : Unreserved second.pattern) :
    compare first second = .equal ↔ first.instances = second.instances := by
  rw [compare_eq_equal_iff, covers_iff_instances_subset secondUnreserved firstUnreserved,
    covers_iff_instances_subset firstUnreserved secondUnreserved,
    Set.Subset.antisymm_iff]

theorem compare_eq_less_iff
    {first second : TypeRule} :
    compare first second = .less ↔ compare second first = .more := by
  rw [compare_mirror second first]
  cases compare second first <;> simp [mirror]

theorem eq_incomparable_iff
    {outcome : Specificity} :
    outcome = .incomparable ↔
      ¬ outcome = .more ∧ ¬ outcome = .less ∧ ¬ outcome = .equal := by
  cases outcome <;> simp

/--
Comparison ranks rules by the sets of types they match: more specific means matching
strictly fewer types.  It is therefore a strict order on unreserved rules, and comparing the
other way round gives the mirror image.
-/
theorem compare_ranks_by_instances
    {first second : TypeRule}
    (firstUnreserved : Unreserved first.pattern)
    (secondUnreserved : Unreserved second.pattern) :
    (compare first second = .more ↔ first.instances ⊂ second.instances) ∧
      (compare first second = .less ↔ second.instances ⊂ first.instances) ∧
      (compare first second = .equal ↔ first.instances = second.instances) ∧
      (compare first second = .incomparable ↔
        ¬ first.instances ⊂ second.instances ∧
          ¬ second.instances ⊂ first.instances ∧
          first.instances ≠ second.instances) ∧
      compare second first = (compare first second).mirror ∧
      compare first first ≠ .more ∧
      ∀ third : TypeRule,
        Unreserved third.pattern →
        compare first second = .more →
        compare second third = .more →
        compare first third = .more := by
  have more := compare_eq_more_iff_instances firstUnreserved secondUnreserved
  have less : compare first second = .less ↔ second.instances ⊂ first.instances :=
    compare_eq_less_iff.trans
      (compare_eq_more_iff_instances secondUnreserved firstUnreserved)
  have equal := compare_eq_equal_iff_instances firstUnreserved secondUnreserved
  refine ⟨more, less, equal, ?_, compare_mirror first second, ?_, ?_⟩
  · rw [eq_incomparable_iff, more, less, equal]
  · intro moreThanItself
    exact ssubset_irrefl _
      ((compare_eq_more_iff_instances firstUnreserved firstUnreserved).mp moreThanItself)
  · intro third thirdUnreserved firstSecond secondThird
    rw [compare_eq_more_iff_instances firstUnreserved thirdUnreserved]
    exact (more.mp firstSecond).trans
      ((compare_eq_more_iff_instances secondUnreserved thirdUnreserved).mp secondThird)

/-- A rule for boxes of something, which may be a vector or a vector of pointers. -/
def boxRule
    (content : CppType) :
    TypeRule where
  pattern :=
    .applied "Box" [content]
  rendering :=
    ""
  parameters :=
    ["T"]
  declarations :=
    []
  location :=
    Location.unknown

/-- Boxes of vectors of pointers are strictly among the boxes of vectors. -/
theorem compare_ranks_boxes_of_vectors :
    Unreserved (boxRule (.applied "vector" [.plain "T*"])).pattern ∧
      Unreserved (boxRule (.applied "vector" [.plain "T"])).pattern ∧
      (boxRule (.applied "vector" [.plain "T*"])).instances ⊂
        (boxRule (.applied "vector" [.plain "T"])).instances := by
  have pointersUnreserved :
      Unreserved (boxRule (.applied "vector" [.plain "T*"])).pattern := by
    decide
  have vectorsUnreserved :
      Unreserved (boxRule (.applied "vector" [.plain "T"])).pattern := by
    decide
  refine ⟨pointersUnreserved, vectorsUnreserved, ?_⟩
  apply (compare_ranks_by_instances pointersUnreserved vectorsUnreserved).1.mp
  decide

end Specificity

end BindingStubs
