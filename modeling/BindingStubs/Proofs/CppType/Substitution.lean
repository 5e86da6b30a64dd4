import BindingStubs.CppType.Substitution
import BindingStubs.Proofs.CppType.Structure
import BindingStubs.Proofs.Keyed

namespace BindingStubs

/-!
# Substitution

A substitution acts on the argument-less nodes of a type only, and there only through the
binding of the base name.  Hence it commutes with pointer levels, and two substitutions in
sequence are a single one.
-/

namespace Bindings

/-- The bindings that act like `first` followed by `second`. -/
def andThen
    (first second : Bindings) :
    Bindings :=
  ⟨(first.map (CppType.substitute second)).entries ++ second.entries⟩

/-- A name bound first is bound to its substituted binding, any other as second. -/
theorem get?_andThen
    (first second : Bindings)
    (name : String) :
    (first.andThen second).get? name =
      ((first.get? name).map (CppType.substitute second)).or (second.get? name) := by
  rw [andThen, Keyed.get?_mk_append]
  congr 1
  exact Keyed.get?_map _ first name

/-- Bindings that bind what `first` binds to its type substituted by `second`, and every other
name as `second` does. -/
structure InSequence
    (first second composite : Bindings) :
    Prop where
  bound :
    ∀ name type,
      first.get? name = some type →
        composite.get? name = some (type.substitute second)
  unbound :
    ∀ name,
      first.get? name = none →
        composite.get? name = second.get? name

theorem inSequence_andThen
    (first second : Bindings) :
    InSequence first second (first.andThen second) := by
  constructor
  · intro name type isBound
    rw [get?_andThen, isBound, Option.map_some, Option.some_or]
  · intro name isUnbound
    rw [get?_andThen, isUnbound, Option.map_none, Option.none_or]

/-- The lookups of such bindings are determined. -/
theorem InSequence.get?_eq
    {first second composite : Bindings}
    (sequence : InSequence first second composite)
    (name : String) :
    composite.get? name = (first.andThen second).get? name := by
  cases isBound : first.get? name with
  | none =>
      rw [sequence.unbound name isBound, (inSequence_andThen first second).unbound name isBound]
  | some type =>
      rw [sequence.bound name type isBound,
        (inSequence_andThen first second).bound name type isBound]

/-- The type a name stands for; an unbound name stands for itself. -/
def image
    (bindings : Bindings)
    (name : String) :
    CppType :=
  (bindings.get? name).getD (.plain name)

/-- All names that are bound are among the given ones. -/
def Within
    (names : List String)
    (bindings : Bindings) : Prop :=
  ∀ name, (bindings.get? name).isSome → name ∈ names

theorem Within.get?_eq_none
    {names : List String}
    {bindings : Bindings}
    (within : Within names bindings)
    {name : String}
    (outside : name ∉ names) :
    bindings.get? name = none := by
  rw [← Option.not_isSome_iff_eq_none]
  exact fun bound => outside (within name bound)

end Bindings

namespace CppType

theorem substituteList_eq_map
    (bindings : Bindings)
    (arguments : List CppType) :
    substituteList bindings arguments = arguments.map (substitute bindings) := by
  induction arguments with
  | nil => rfl
  | cons first rest inductionHypothesis =>
      rw [substituteList, inductionHypothesis, List.map_cons]

/-- An argument-less node becomes the image of its base under its own pointer levels. -/
theorem substitute_plain
    (bindings : Bindings)
    (name : String) :
    (CppType.plain name).substitute bindings =
      (bindings.image (CppType.plain name).baseName).addPointers
        (CppType.plain name).pointerDepth := by
  rw [substitute, Bindings.image]
  split
  · rename_i bound found
    rw [found, Option.getD_some]
  · rename_i unbound
    rw [unbound, Option.getD_none, addPointers_plain_baseName]

/-- Only the images of the bases of argument-less nodes matter. -/
theorem substitute_congr
    {first second : Bindings}
    {type : CppType}
    (agree :
      ∀ name, CppType.plain name ∈ type.nodes →
        first.image (CppType.plain name).baseName =
          second.image (CppType.plain name).baseName) :
    type.substitute first = type.substitute second := by
  induction type using recurse with
  | plain name =>
      rw [substitute_plain, substitute_plain, agree name (by simp [nodes])]
  | applied name arguments inductionHypothesis =>
      rw [substitute, substitute, substituteList_eq_map, substituteList_eq_map]
      congr 1
      apply List.map_congr_left
      intro argument member
      apply inductionHypothesis argument member
      intro inner isNode
      apply agree
      rw [nodes]
      exact List.mem_cons_of_mem _ (mem_nodesOfList.mpr ⟨argument, member, isNode⟩)

/-- A type none of whose argument-less nodes is bound is left as it is. -/
theorem substitute_eq_self
    {bindings : Bindings}
    {type : CppType}
    (unbound :
      ∀ name, CppType.plain name ∈ type.nodes →
        bindings.get? (CppType.plain name).baseName = none) :
    type.substitute bindings = type := by
  induction type using recurse with
  | plain name =>
      rw [substitute_plain, Bindings.image, unbound name (by simp [nodes]), Option.getD_none,
        addPointers_plain_baseName]
  | applied name arguments inductionHypothesis =>
      rw [substitute, substituteList_eq_map]
      congr 1
      refine (List.map_congr_left fun argument member => ?_).trans (List.map_id _)
      apply inductionHypothesis argument member
      intro inner isNode
      apply unbound
      rw [nodes]
      exact List.mem_cons_of_mem _ (mem_nodesOfList.mpr ⟨argument, member, isNode⟩)

/-- Without bindings nothing is replaced. -/
theorem substitute_of_isEmpty
    {bindings : Bindings}
    (isEmpty : bindings.isEmpty = true)
    (type : CppType) :
    type.substitute bindings = type := by
  obtain ⟨entries⟩ := bindings
  obtain rfl : entries = [] := List.isEmpty_iff.mp isEmpty
  exact substitute_eq_self fun name _ => Keyed.get?_mk_nil _

theorem substitute_pointerTo
    (bindings : Bindings)
    (type : CppType) :
    type.pointerTo.substitute bindings = (type.substitute bindings).pointerTo := by
  cases type with
  | plain name =>
      have base := baseName_pointerTo (.plain name)
      have levels := pointerDepth_pointerTo (.plain name)
      rw [pointerTo, withName] at base levels ⊢
      rw [substitute_plain, substitute_plain, base, levels, addPointers]
  | applied name arguments => rfl

theorem substitute_addPointers
    (bindings : Bindings)
    (type : CppType)
    (levels : Nat) :
    (type.addPointers levels).substitute bindings =
      (type.substitute bindings).addPointers levels := by
  induction levels with
  | zero => rfl
  | succ levels inductionHypothesis =>
      rw [addPointers, substitute_pointerTo, inductionHypothesis, addPointers]

theorem parts_plain_baseName
    (type : CppType) :
    (CppType.plain type.baseName).baseName = type.baseName ∧
      (CppType.plain type.baseName).pointerDepth = 0 := by
  have spelled :
      (CppType.plain type.baseName).name.toList =
        type.baseName.toList ++ List.replicate 0 pointerMark := by
    simp [CppType.name]
  obtain ⟨base, levels⟩ :=
    parts_eq_of_toList_name (getLast?_baseName_ne type) spelled
  exact ⟨String.toList_inj.mp base, levels⟩

/-- Two substitutions in sequence are one. -/
theorem substitute_substitute
    (first second : Bindings)
    (type : CppType) :
    (type.substitute first).substitute second =
      type.substitute (first.andThen second) := by
  induction type using recurse with
  | plain name =>
      rw [substitute_plain first, substitute_addPointers, substitute_plain (first.andThen _)]
      congr 1
      rw [Bindings.image, Bindings.image, Bindings.get?_andThen]
      cases first.get? (CppType.plain name).baseName with
      | none =>
          obtain ⟨base, levels⟩ := parts_plain_baseName (.plain name)
          rw [Option.getD_none, substitute_plain, base, levels, addPointers]
          simp [Bindings.image]
      | some bound => simp
  | applied name arguments inductionHypothesis =>
      simp only [substitute, substituteList_eq_map, List.map_map]
      congr 1
      apply List.map_congr_left
      exact inductionHypothesis

/--
Substitution by `first` and then by `second` is substitution by any bindings that bind what `first`
binds to its type substituted by `second` and every other name as `second` does, and there are such
bindings.  Substitution commutes with taking pointers.
-/
theorem substitutions_compose
    (first second : Bindings)
    (type : CppType) :
    (∃ composite, Bindings.InSequence first second composite) ∧
      (∀ composite,
        Bindings.InSequence first second composite →
          (type.substitute first).substitute second = type.substitute composite) ∧
      type.pointerTo.substitute first = (type.substitute first).pointerTo := by
  refine ⟨⟨_, Bindings.inSequence_andThen first second⟩, ?_, substitute_pointerTo first type⟩
  intro composite sequence
  rw [substitute_substitute]
  apply substitute_congr
  intro name _
  rw [Bindings.image, Bindings.image, sequence.get?_eq]

end CppType

end BindingStubs
