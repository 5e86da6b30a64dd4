import BindingStubs.Proofs.CppType.Substitution
import BindingStubs.Resolution.Matching

namespace BindingStubs

/-!
# Matching is sound and complete

Matching a type against a pattern succeeds exactly when some substitution of the pattern's
parameters turns the pattern into the type.  Bindings found on the left are carried to the
right, so both directions are proved for arbitrary bindings to start from.
-/

namespace Bindings

/-- Everything bound here is bound to the same type there. -/
def ExtendedBy
    (bindings later : Bindings) : Prop :=
  ∀ name type, bindings.get? name = some type → later.get? name = some type

namespace ExtendedBy

theorem refl
    (bindings : Bindings) :
    bindings.ExtendedBy bindings :=
  fun _ _ found => found

theorem trans
    {first second third : Bindings}
    (firstSecond : first.ExtendedBy second)
    (secondThird : second.ExtendedBy third) :
    first.ExtendedBy third :=
  fun name type found => secondThird name type (firstSecond name type found)

end ExtendedBy

theorem extendedBy_insert
    {bindings : Bindings}
    {name : String}
    (unbound : bindings.get? name = none)
    (type : CppType) :
    bindings.ExtendedBy (bindings.insert name type) := by
  intro other bound found
  rw [Keyed.get?_insert]
  split
  · rename_i same
    rw [same, unbound] at found
    simp at found
  · exact found

/-- Bindings that give every parameter an image: its binding, or the parameter itself. -/
def completed
    (parameters : List String)
    (bindings : Bindings) :
    Bindings :=
  ⟨bindings.entries ++ parameters.map fun name => (name, .plain name)⟩

theorem get?_completed
    (parameters : List String)
    (bindings : Bindings)
    (name : String) :
    (bindings.completed parameters).get? name =
      (bindings.get? name).or
        (if name ∈ parameters then some (.plain name) else none) := by
  rw [completed, Keyed.get?_mk_append]
  congr 1
  induction parameters with
  | nil => simp
  | cons parameter rest inductionHypothesis =>
      rw [List.map_cons, Keyed.get?_mk_cons, inductionHypothesis]
      by_cases same : name = parameter
      · simp [same]
      · simp [same]

end Bindings

namespace Matching

open Bindings

/--
What a successful match of a pattern leaves: the bindings grew by parameters only, and
every further extension still turns the pattern into the type.
-/
structure Matched
    (parameters : List String)
    (pattern concrete : CppType)
    (bindings extended : Bindings) : Prop where
  within :
    extended.Within parameters
  extends_start :
    bindings.ExtendedBy extended
  substituted :
    ∀ later : Bindings,
      extended.ExtendedBy later →
      later.Within parameters →
      pattern.substitute later = concrete

/-- Binding a parameter successfully leaves it bound to the type. -/
theorem bindParameter_sound
    {parameters : List String}
    {name : String}
    {type : CppType}
    {bindings extended : Bindings}
    (isParameter : name ∈ parameters)
    (within : bindings.Within parameters)
    (bound : bindParameter name type bindings = (true, extended)) :
    extended.Within parameters ∧
      bindings.ExtendedBy extended ∧
      extended.get? name = some type := by
  unfold bindParameter at bound
  split at bound
  · rename_i existing found
    simp only [Prod.mk.injEq, beq_iff_eq] at bound
    obtain ⟨same, unchanged⟩ := bound
    rw [← unchanged, ← same]
    exact ⟨within, .refl bindings, found⟩
  · rename_i unbound
    simp only [Prod.mk.injEq, true_and] at bound
    rw [← bound]
    refine ⟨?_, extendedBy_insert unbound type, ?_⟩
    · intro other isBound
      rw [Keyed.get?_insert] at isBound
      split at isBound
      · rename_i same
        exact same ▸ isParameter
      · exact within other isBound
    · rw [Keyed.get?_insert, if_pos rfl]

/-- A parameter can be bound to what a solution binds it to. -/
theorem bindParameter_complete
    {name : String}
    {type : CppType}
    {bindings solution : Bindings}
    (start : bindings.ExtendedBy solution)
    (solved : solution.get? name = some type) :
    ∃ extended,
      bindParameter name type bindings = (true, extended) ∧
        extended.ExtendedBy solution := by
  unfold bindParameter
  split
  · rename_i existing found
    have same := start name existing found
    rw [solved, Option.some.injEq] at same
    exact ⟨bindings, by simp [same], start⟩
  · refine ⟨_, rfl, ?_⟩
    intro other bound found
    rw [Keyed.get?_insert] at found
    split at found
    · rename_i same
      rw [same, solved]
      exact found
    · exact start other bound found

/-- If matches of single patterns are sound, so are matches of lists of them. -/
theorem unifyAll_sound
    {parameters : List String}
    {patterns : List CppType}
    (each :
      ∀ pattern ∈ patterns, ∀ concrete bindings extended,
        bindings.Within parameters →
        unify parameters pattern concrete bindings = (true, extended) →
        Matched parameters pattern concrete bindings extended)
    {concretes : List CppType}
    {bindings extended : Bindings}
    (sameLength : patterns.length = concretes.length)
    (within : bindings.Within parameters)
    (unified : unifyAll parameters patterns concretes bindings = (true, extended)) :
    extended.Within parameters ∧
      bindings.ExtendedBy extended ∧
      ∀ later : Bindings,
        extended.ExtendedBy later →
        later.Within parameters →
        patterns.map (CppType.substitute later) = concretes := by
  induction patterns generalizing concretes bindings with
  | nil =>
      cases concretes with
      | nil =>
          simp only [unifyAll, Prod.mk.injEq, true_and] at unified
          exact ⟨unified ▸ within, unified ▸ .refl bindings, fun _ _ _ => rfl⟩
      | cons concrete concretes => simp at sameLength
  | cons pattern patterns inductionHypothesis =>
      cases concretes with
      | nil => simp at sameLength
      | cons concrete concretes =>
          rw [unifyAll] at unified
          split at unified
          · rename_i between unifiedFirst
            have first :=
              each pattern (List.mem_cons_self ..) concrete bindings between
                within unifiedFirst
            obtain ⟨restWithin, restExtends, restSubstituted⟩ :=
              inductionHypothesis
                (fun other member => each other (List.mem_cons_of_mem _ member))
                (by simpa using sameLength) first.within unified
            refine ⟨restWithin, first.extends_start.trans restExtends, ?_⟩
            intro later extendsLater laterWithin
            rw [List.map_cons,
              first.substituted later (restExtends.trans extendsLater) laterWithin,
              restSubstituted later extendsLater laterWithin]
          · simp at unified

/-- A successful match yields bindings that turn the pattern into the type. -/
theorem unify_sound
    {parameters : List String}
    {pattern concrete : CppType}
    {bindings extended : Bindings}
    (within : bindings.Within parameters)
    (unified : unify parameters pattern concrete bindings = (true, extended)) :
    Matched parameters pattern concrete bindings extended := by
  induction pattern using CppType.recurse generalizing concrete bindings extended with
  | plain name =>
      rw [unify] at unified
      split at unified
      · rename_i isParameter
        split at unified
        · rename_i bound removed
          obtain ⟨extendedWithin, extends_start, found⟩ :=
            bindParameter_sound (by simpa using isParameter) within unified
          refine ⟨extendedWithin, extends_start, ?_⟩
          intro later extendsLater _
          rw [CppType.substitute_plain, image, extendsLater _ _ found, Option.getD_some,
            CppType.removePointers?_eq_some_iff.mp removed]
        · simp at unified
      · rename_i notParameter
        simp only [Prod.mk.injEq, beq_iff_eq] at unified
        obtain ⟨same, unchanged⟩ := unified
        refine ⟨unchanged ▸ within, unchanged ▸ .refl bindings, ?_⟩
        intro later _ laterWithin
        rw [CppType.substitute_plain, image,
          laterWithin.get?_eq_none (by simpa using notParameter), Option.getD_none,
          CppType.addPointers_plain_baseName, same]
  | applied name patterns inductionHypothesis =>
      cases concrete with
      | plain other => simp [unify] at unified
      | applied other arguments =>
          rw [unify] at unified
          split at unified
          · rename_i sameShape
            obtain ⟨extendedWithin, extends_start, substituted⟩ :=
              unifyAll_sound
                (fun pattern member concrete bindings extended =>
                  inductionHypothesis pattern member)
                sameShape.2 within unified
            refine ⟨extendedWithin, extends_start, ?_⟩
            intro later extendsLater laterWithin
            rw [CppType.substitute, CppType.substituteList_eq_map,
              substituted later extendsLater laterWithin, sameShape.1]
          · simp at unified

/-- If matches of single patterns are complete, so are matches of lists of them. -/
theorem unifyAll_complete
    {parameters : List String}
    {patterns : List CppType}
    {solution : Bindings}
    (each :
      ∀ pattern ∈ patterns, ∀ bindings : Bindings,
        bindings.ExtendedBy solution →
        ∃ extended,
          unify parameters pattern (pattern.substitute solution) bindings =
              (true, extended) ∧
            extended.ExtendedBy solution)
    {bindings : Bindings}
    (start : bindings.ExtendedBy solution) :
    ∃ extended,
      unifyAll parameters patterns (patterns.map (CppType.substitute solution)) bindings =
          (true, extended) ∧
        extended.ExtendedBy solution := by
  induction patterns generalizing bindings with
  | nil => exact ⟨bindings, by simp [unifyAll], start⟩
  | cons pattern patterns inductionHypothesis =>
      obtain ⟨between, unifiedFirst, extendsFirst⟩ :=
        each pattern (List.mem_cons_self ..) bindings start
      obtain ⟨extended, unifiedRest, extendsRest⟩ :=
        inductionHypothesis
          (fun other member => each other (List.mem_cons_of_mem _ member)) extendsFirst
      exact ⟨extended, by rw [List.map_cons, unifyAll, unifiedFirst]; exact unifiedRest,
        extendsRest⟩

/-- A pattern matches what a solution that binds every parameter makes of it. -/
theorem unify_complete
    {parameters : List String}
    {solution : Bindings}
    (within : solution.Within parameters)
    (total : ∀ name ∈ parameters, (solution.get? name).isSome)
    (pattern : CppType)
    {bindings : Bindings}
    (start : bindings.ExtendedBy solution) :
    ∃ extended,
      unify parameters pattern (pattern.substitute solution) bindings =
          (true, extended) ∧
        extended.ExtendedBy solution := by
  induction pattern using CppType.recurse generalizing bindings with
  | plain name =>
      by_cases isParameter : (CppType.plain name).baseName ∈ parameters
      · obtain ⟨bound, solved⟩ := Option.isSome_iff_exists.mp (total _ isParameter)
        have removed :
            ((CppType.plain name).substitute solution).removePointers?
                (CppType.plain name).pointerDepth =
              some bound := by
          rw [CppType.removePointers?_eq_some_iff, CppType.substitute_plain, image, solved,
            Option.getD_some]
        obtain ⟨extended, boundParameter, extendsBound⟩ :=
          bindParameter_complete start solved
        refine ⟨extended, ?_, extendsBound⟩
        rw [unify, if_pos (by simpa using isParameter), removed]
        exact boundParameter
      · have unchanged : (CppType.plain name).substitute solution = .plain name := by
          rw [CppType.substitute_plain, image, within.get?_eq_none isParameter,
            Option.getD_none, CppType.addPointers_plain_baseName]
        refine ⟨bindings, ?_, start⟩
        rw [unify, if_neg (by simpa using isParameter), unchanged, beq_self_eq_true]
  | applied name patterns inductionHypothesis =>
      obtain ⟨extended, unified, extendsAll⟩ :=
        unifyAll_complete
          (fun pattern member bindings start =>
            inductionHypothesis pattern member start) start
      refine ⟨extended, ?_, extendsAll⟩
      rw [CppType.substitute, CppType.substituteList_eq_map, unify,
        if_pos ⟨rfl, by simp⟩]
      exact unified

/--
A match from empty bindings succeeds exactly when some substitution of parameters turns the
pattern into the type.
-/
theorem unify_iff_exists_substitution
    {parameters : List String}
    {pattern concrete : CppType} :
    (unify parameters pattern concrete {}).1 = true ↔
      ∃ solution : Bindings,
        solution.Within parameters ∧ pattern.substitute solution = concrete := by
  constructor
  · intro unified
    have emptyWithin : Within parameters {} := by
      intro name bound
      simp at bound
    have result :
        unify parameters pattern concrete {} =
          (true, (unify parameters pattern concrete {}).2) := by
      rw [← unified]
    have matched := unify_sound emptyWithin result
    exact ⟨_, matched.within, matched.substituted _ (.refl _) matched.within⟩
  · rintro ⟨solution, within, rfl⟩
    -- A solution may leave parameters free; binding those to themselves changes nothing.
    have completedWithin : (solution.completed parameters).Within parameters := by
      intro name bound
      rw [get?_completed, Option.isSome_or, Bool.or_eq_true] at bound
      rcases bound with solved | added
      · exact within name solved
      · by_contra outside
        simp [outside] at added
    have completedTotal :
        ∀ name ∈ parameters, ((solution.completed parameters).get? name).isSome := by
      intro name isParameter
      simp [get?_completed, isParameter]
    have sameInstance :
        pattern.substitute solution =
          pattern.substitute (solution.completed parameters) := by
      apply CppType.substitute_congr
      intro name _
      rw [image, image, get?_completed]
      cases solution.get? (CppType.plain name).baseName with
      | none => split <;> rfl
      | some bound => rfl
    have start : ExtendedBy {} (solution.completed parameters) := by
      intro name type found
      simp at found
    obtain ⟨extended, unified, _⟩ :=
      unify_complete completedWithin completedTotal pattern start
    rw [sameInstance, unified]

theorem match?_eq_some_iff
    {parameters : List String}
    {pattern concrete : CppType}
    {bindings : Bindings} :
    match? parameters pattern concrete = some bindings ↔
      unify parameters pattern concrete {} = (true, bindings) := by
  rw [match?]
  split
  · rename_i found unified
    simp [unified]
  · rename_i found unified
    simp [unified]

/-! ## The names that a match binds -/

/-- A name stands at a node without arguments, under any number of pointer levels. -/
def Stands
    (name : String)
    (pattern : CppType) : Prop :=
  ∃ node ∈ pattern.nodes, node.arguments? = none ∧ node.baseName = name

instance
    (name : String)
    (pattern : CppType) :
    Decidable (Stands name pattern) :=
  List.decidableBEx _ _

theorem stands_plain_iff
    {name other : String} :
    Stands name (.plain other) ↔ (CppType.plain other).baseName = name := by
  simp [Stands, CppType.nodes, CppType.arguments?]

/-- Names stand in an applied type only as they stand in its arguments. -/
theorem stands_applied_iff
    {name other : String}
    {arguments : List CppType} :
    Stands name (.applied other arguments) ↔ ∃ argument ∈ arguments, Stands name argument := by
  simp only [Stands, CppType.nodes, List.mem_cons, CppType.mem_nodesOfList]
  constructor
  · rintro ⟨node, rfl | ⟨argument, member, isNode⟩, plain, named⟩
    · cases plain
    · exact ⟨argument, member, node, isNode, plain, named⟩
  · rintro ⟨argument, member, node, isNode, plain, named⟩
    exact ⟨node, .inr ⟨argument, member, isNode⟩, plain, named⟩

/-- Binding a parameter successfully binds it and nothing else. -/
theorem isSome_get?_bindParameter
    {name : String}
    {type : CppType}
    {bindings extended : Bindings}
    (bound : bindParameter name type bindings = (true, extended))
    (other : String) :
    (extended.get? other).isSome ↔ (bindings.get? other).isSome ∨ name = other := by
  unfold bindParameter at bound
  split at bound
  · rename_i existing found
    simp only [Prod.mk.injEq] at bound
    obtain ⟨-, rfl⟩ := bound
    refine ⟨.inl, fun either => either.elim id ?_⟩
    rintro rfl
    rw [found]
    rfl
  · simp only [Prod.mk.injEq, true_and] at bound
    rw [← bound, Keyed.get?_insert]
    split
    · rename_i same
      simp [same]
    · rename_i differ
      simp [Ne.symm differ]

/-- If matches of single patterns bind the parameters that stand there, so do matches of lists. -/
theorem isSome_get?_unifyAll
    {parameters : List String}
    {patterns : List CppType}
    (each :
      ∀ pattern ∈ patterns, ∀ concrete bindings extended,
        unify parameters pattern concrete bindings = (true, extended) →
        ∀ name,
          (extended.get? name).isSome ↔
            (bindings.get? name).isSome ∨ name ∈ parameters ∧ Stands name pattern)
    {concretes : List CppType}
    {bindings extended : Bindings}
    (sameLength : patterns.length = concretes.length)
    (unified : unifyAll parameters patterns concretes bindings = (true, extended))
    (name : String) :
    (extended.get? name).isSome ↔
      (bindings.get? name).isSome ∨
        name ∈ parameters ∧ ∃ pattern ∈ patterns, Stands name pattern := by
  induction patterns generalizing concretes bindings with
  | nil =>
      simp only [unifyAll, Prod.mk.injEq, true_and] at unified
      simp [unified]
  | cons pattern patterns inductionHypothesis =>
      cases concretes with
      | nil => simp at sameLength
      | cons concrete concretes =>
          rw [unifyAll] at unified
          split at unified
          · rename_i between unifiedFirst
            have first :=
              each pattern (List.mem_cons_self ..) concrete bindings between unifiedFirst
            have rest :=
              inductionHypothesis
                (fun other member => each other (List.mem_cons_of_mem _ member))
                (by simpa using sameLength) unified
            rw [rest, first, List.exists_mem_cons_iff, or_assoc, ← and_or_left]
          · simp at unified

/-- A successful match binds the parameters that stand in the pattern, beside those bound before. -/
theorem isSome_get?_unify
    {parameters : List String}
    {pattern concrete : CppType}
    {bindings extended : Bindings}
    (unified : unify parameters pattern concrete bindings = (true, extended))
    (name : String) :
    (extended.get? name).isSome ↔
      (bindings.get? name).isSome ∨ name ∈ parameters ∧ Stands name pattern := by
  induction pattern using CppType.recurse generalizing concrete bindings extended name with
  | plain other =>
      rw [stands_plain_iff]
      rw [unify] at unified
      split at unified
      · rename_i isParameter
        split at unified
        · rw [isSome_get?_bindParameter unified]
          refine or_congr_right ⟨fun same => ⟨?_, same⟩, And.right⟩
          simpa [same] using isParameter
        · simp at unified
      · rename_i notParameter
        simp only [Prod.mk.injEq] at unified
        rw [unified.2]
        refine ⟨.inl, fun either => either.resolve_right ?_⟩
        rintro ⟨isParameter, rfl⟩
        exact notParameter (by simpa using isParameter)
  | applied other patterns inductionHypothesis =>
      rw [stands_applied_iff]
      cases concrete with
      | plain concrete => simp [unify] at unified
      | applied concrete arguments =>
          rw [unify] at unified
          split at unified
          · rename_i sameShape
            exact
              isSome_get?_unifyAll
                (fun pattern member concrete bindings extended =>
                  inductionHypothesis pattern member)
                sameShape.2 unified name
          · simp at unified

/--
Matching decides whether a type is an instance of a pattern, and the bindings it leaves are an
instantiation: they turn the pattern into the type and bind the parameters that stand in it.
-/
theorem unify_finds_instantiation
    (parameters : List String)
    (pattern concrete : CppType) :
    ((unify parameters pattern concrete {}).1 = true ↔
        ∃ solution : Bindings,
          solution.Within parameters ∧ pattern.substitute solution = concrete) ∧
      ∀ bindings : Bindings,
        unify parameters pattern concrete {} = (true, bindings) →
        pattern.substitute bindings = concrete ∧
          ∀ name, (bindings.get? name).isSome ↔ name ∈ parameters ∧ Stands name pattern := by
  refine ⟨unify_iff_exists_substitution, fun bindings unified => ⟨?_, fun name => ?_⟩⟩
  · have emptyWithin : Within parameters {} := by
      intro name bound
      simp at bound
    have matched := unify_sound emptyWithin unified
    exact matched.substituted bindings (.refl bindings) matched.within
  · simpa using isSome_get?_unify unified name

/-- A parameter under pointer levels is bound to what is left below them, and its repetition is
checked; a name that is applied to arguments is no parameter. -/
theorem unify_finds_instantiation_of_nested_pairs :
    let pattern : CppType :=
      .applied "Pair" [.plain "T*", .applied "U" [.plain "T"], .plain "V"]
    let concrete : CppType :=
      .applied "Pair"
        [.applied "vector**" [.plain "int"], .applied "U" [.applied "vector*" [.plain "int"]],
          .plain "V"]
    ∃ bindings,
      unify ["T", "U"] pattern concrete {} = (true, bindings) ∧
        pattern.substitute bindings = concrete ∧
        bindings.get? "T" = some (.applied "vector*" [.plain "int"]) ∧
        bindings.get? "U" = none := by
  intro pattern concrete
  have unified :
      unify ["T", "U"] pattern concrete {} =
        (true, ⟨[("T", .applied "vector*" [.plain "int"])]⟩) := by
    decide +kernel
  have instantiated := (unify_finds_instantiation ["T", "U"] pattern concrete).2 _ unified
  refine ⟨_, unified, instantiated.1, rfl, rfl⟩

end Matching

end BindingStubs
