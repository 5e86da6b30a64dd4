import BindingStubs.Extraction.Call
import BindingStubs.Proofs.Extraction.WrappedReceivers
import BindingStubs.Proofs.Extraction.WrappedTargets
import BindingStubs.Proofs.Model.Change

namespace BindingStubs

/-!
# Registration calls do not see wrappers

Each idiom makes of a call the registrations that it makes of the call at its place.  There is one
difference, the location that goes with a reference to a parent class, which only a fault shows;
so registrations are compared by what they do to a model.
-/

namespace Registration

open Change

/-- Whether registrations lead from every model to the same model, or are refused together. -/
def SameEffect
    (first second : List Registration) :
    Prop :=
  ∀ model, after? (performAll first) model = after? (performAll second) model

/-- The location of a reference to a class is shown by a fault only. -/
theorem after?_referToClass_location
    (shadowKey : String)
    (cppType : CppType)
    (first second : Location)
    (model : BindingModel) :
    after? (perform (.referToClass shadowKey cppType first)) model =
      after? (perform (.referToClass shadowKey cppType second)) model := by
  simp only [perform, after?_discard, BindingModel.classEntry, after?_get_bind]
  split <;> [split; skip; skip; skip] <;> rfl

end Registration

theorem Alike.sameEffect
    {left right : Except Fault (List Registration)}
    (alike : Alike Eq left right) :
    Alike Registration.SameEffect left right := by
  cases alike with
  | ok same => exact .ok fun _ => same ▸ rfl
  | error leftFault rightFault => exact .error leftFault rightFault

namespace TranslationUnit

open Shape RegistrationCall

variable {unit wrapped : TranslationUnit} {place : NodeId → NodeId} {id other : NodeId}

namespace Wrapping

/-! ## The parts of a call -/

theorem alike_arguments
    (wrapping : Wrapping unit wrapped place)
    (idiom : Idiom)
    (call : NodeId)
    (least most : Nat) :
    Alike (List.Forall₂ (Carries unit wrapped place))
      (arguments unit idiom call least most)
      (arguments wrapped idiom (place call) least most) := by
  have carried := wrapping.forall₂_arguments call
  rw [arguments, arguments, ← carried.length_eq]
  exact (alike_expectArguments idiom.name call (place call) _ least most).bind_eq
    fun _ => .ok carried

/-- The argument at a position is carried by the argument at that position. -/
theorem carries_argument
    (wrapping : Wrapping unit wrapped place)
    {found others : List NodeId}
    (carried : List.Forall₂ (Carries unit wrapped place) found others)
    (index : Nat) :
    Carries unit wrapped place (argument found index) (argument others index) := by
  rw [argument, argument]
  match found[index]?, others[index]?, rel_getElem? carried index with
  | none, none, .none =>
      have atRoot : Carries unit wrapped place root (place root) := .here root
      rwa [wrapping.place_root] at atRoot
  | some _, some _, .some carries => exact carries

theorem callable_place
    (wrapping : Wrapping unit wrapped place)
    (target : Target)
    (signature : Signature)
    (doc : Option String)
    (isStatic : Bool)
    (call : NodeId) :
    callable wrapped (target.placed place) signature doc isStatic (place call) =
      callable unit target signature doc isStatic call := by
  simp only [callable, wrapping.cppSignature_placed, wrapping.location_place]

/-! ## The values of enums -/

theorem alike_explicitValuesFrom
    (wrapping : Wrapping unit wrapped place)
    (idiom : String)
    {entries others : List NodeId}
    (carried : List.Forall₂ (Carries unit wrapped place) entries others)
    (values : Keyed (Option Literal)) :
    Alike Eq (explicitValuesFrom unit idiom values entries)
      (explicitValuesFrom wrapped idiom values others) := by
  induction carried generalizing values with
  | nil => exact .refl _
  | @cons entry other _ _ carries _ inductionHypothesis =>
      have parts := wrapping.forall₂_filter (wrapping.children (unwrap unit entry))
        (NodeKind.sameForExpressions_bne .defaultArgument rfl)
      simp only [explicitValuesFrom, carries.unwrap_eq wrapping, wrapping.kind_place]
      cases unit.kind (unwrap unit entry) == .initializerList
          || unit.kind (unwrap unit entry) == .construct with
      | false => exact .mismatch ..
      | true =>
          match List.filter _ (unit.children (unwrap unit entry)),
            List.filter _ (wrapped.children (place (unwrap unit entry))), parts with
          | _, _, .nil => exact .mismatch ..
          | _, _, .cons _ .nil => exact .mismatch ..
          | _, _, .cons _ (.cons _ (.cons _ _)) => exact .mismatch ..
          | _, _, .cons carriesName (.cons carriesValue .nil) =>
              refine (carriesName.alike_stringLiteral wrapping idiom).bind_eq fun name => ?_
              split
              · exact .mismatch ..
              · exact (carriesValue.alike_literal? wrapping).bind_eq fun value =>
                  inductionHypothesis _

theorem alike_explicitValues
    (carries : Carries unit wrapped place id other)
    (wrapping : Wrapping unit wrapped place)
    (idiom : String) :
    Alike Eq (explicitValues unit idiom id) (explicitValues wrapped idiom other) := by
  simp only [explicitValues, carries.unwrap_eq wrapping, wrapping.kind_place]
  split
  · exact wrapping.alike_explicitValuesFrom idiom (wrapping.children _) {}
  · exact .mismatch ..

theorem countValues_place
    (wrapping : Wrapping unit wrapped place)
    (enumerators : List NodeId)
    (previous : Option Int) :
    countValues wrapped previous (enumerators.map place) =
      countValues unit previous enumerators := by
  induction enumerators generalizing previous with
  | nil => rfl
  | cons enumerator rest inductionHypothesis =>
      simp only [List.map_cons, countValues, wrapping.value?_place, wrapping.spelling_place,
        inductionHypothesis]

theorem declaredValues_eq
    (wrapping : Wrapping unit wrapped place)
    (sameDeclarations : ∀ name,
      wrapped.typeDeclaration? name = (unit.typeDeclaration? name).map place)
    (cppName : String) :
    declaredValues wrapped cppName = declaredValues unit cppName := by
  rw [declaredValues, sameDeclarations, declaredValues]
  cases unit.typeDeclaration? cppName with
  | none => rfl
  | some declaration =>
      simp only [Option.map_some, wrapping.childrenOfKind_place .enumerator rfl,
        wrapping.countValues_place]

/-! ## The idioms -/

theorem alike_declareModule
    (wrapping : Wrapping unit wrapped place)
    (call : NodeId) :
    Alike Eq (declareModule unit call) (declareModule wrapped (place call)) := by
  refine (wrapping.alike_arguments .declareModule call 2 2).bind fun found others carried => ?_
  have carries := wrapping.carries_argument carried
  refine ((carries 0).alike_stringLiteral wrapping _).bind_eq fun name => ?_
  refine ((carries 1).alike_docText wrapping _).bind_eq fun doc => ?_
  exact .of_eq (by simp only [wrapping.declaredModuleKey_place, wrapping.location_place])

theorem sameEffect_declareClass
    (wrapping : Wrapping unit wrapped place)
    (call : NodeId) :
    Alike Registration.SameEffect (declareClass unit call) (declareClass wrapped (place call)) := by
  refine (wrapping.alike_arguments .declareClass call 2 3).bind fun found others carried => ?_
  have carries := wrapping.carries_argument carried
  refine (Carries.alike_classKeys (.here call) wrapping _).bind_eq fun keys => ?_
  refine ((carries 0).alike_stringLiteral wrapping _).bind_eq fun name => ?_
  refine ((carries 1).alike_docText wrapping _).bind_eq fun doc => ?_
  match found[2]?, others[2]?, rel_getElem? carried 2 with
  | none, none, .none => exact .sameEffect (.of_eq (by simp only [wrapping.location_place]))
  | some parent, some otherParent, .some carriesLast =>
      refine (carriesLast.alike_classKeys wrapping _).bind_eq fun parentKeys => .ok fun model => ?_
      simp only [wrapping.location_place, Registration.performAll, Change.after?_bind]
      rw [Registration.after?_referToClass_location]

theorem alike_declareEnum
    (wrapping : Wrapping unit wrapped place)
    (sameDeclarations : ∀ name,
      wrapped.typeDeclaration? name = (unit.typeDeclaration? name).map place)
    (call : NodeId) :
    Alike Eq (declareEnum unit call) (declareEnum wrapped (place call)) := by
  refine (wrapping.alike_arguments .declareEnum call 2 3).bind fun found others carried => ?_
  have carries := wrapping.carries_argument carried
  refine (Carries.alike_enumKey (.here call) wrapping _).bind_eq fun cppName => ?_
  refine ((carries 0).alike_stringLiteral wrapping _).bind_eq fun name => ?_
  refine ((carries 1).alike_docText wrapping _).bind_eq fun doc => ?_
  match found[2]?, others[2]?, rel_getElem? carried 2 with
  | none, none, .none =>
      exact .of_eq (by simp only [wrapping.declaredValues_eq sameDeclarations,
        wrapping.location_place])
  | some list, some otherList, .some carriesLast =>
      refine (wrapping.alike_explicitValues carriesLast _).bind_eq fun values => ?_
      exact .of_eq (by simp only [wrapping.location_place])

theorem alike_addFunction
    (wrapping : Wrapping unit wrapped place)
    (call : NodeId) :
    Alike Eq (addFunction unit call) (addFunction wrapped (place call)) := by
  refine (wrapping.alike_arguments .addFunction call 3 3).bind fun found others carried => ?_
  have carries := wrapping.carries_argument carried
  refine (wrapping.alike_moduleOfCall _ call (wrapping.rel_receiver call)).bind_eq
    fun moduleKey => ?_
  refine ((carries 0).alike_stringLiteral wrapping _).bind_eq fun name => ?_
  refine ((carries 1).alike_docText wrapping _).bind_eq fun doc => ?_
  refine ((carries 2).alike_target wrapping _).bind ?_
  rintro target _ rfl
  exact .of_eq (by simp only [wrapping.signature_placed, wrapping.callable_place])

theorem alike_addClass
    (wrapping : Wrapping unit wrapped place)
    (call : NodeId) :
    Alike Eq (addClass unit call) (addClass wrapped (place call)) := by
  refine (wrapping.alike_arguments .addClass call 1 1).bind fun found others carried => ?_
  have carries := wrapping.carries_argument carried
  refine (wrapping.alike_moduleOfCall _ call (wrapping.rel_receiver call)).bind_eq
    fun moduleKey => ?_
  refine ((carries 0).alike_classKeys wrapping _).bind_eq fun keys => ?_
  exact .of_eq (by simp only [wrapping.location_place])

theorem alike_addEnum
    (wrapping : Wrapping unit wrapped place)
    (call : NodeId) :
    Alike Eq (addEnum unit call) (addEnum wrapped (place call)) := by
  refine (wrapping.alike_arguments .addEnum call 1 1).bind fun found others carried => ?_
  have carries := wrapping.carries_argument carried
  refine (wrapping.alike_moduleOfCall _ call (wrapping.rel_receiver call)).bind_eq
    fun moduleKey => ?_
  refine ((carries 0).alike_enumKey wrapping _).bind_eq fun cppName => ?_
  exact .of_eq (by simp only [wrapping.location_place])

theorem alike_addConstructor
    (wrapping : Wrapping unit wrapped place)
    (call : NodeId) :
    Alike Eq (addConstructor unit call) (addConstructor wrapped (place call)) := by
  refine (wrapping.alike_arguments .addConstructor call 2 2).bind fun found others carried => ?_
  have carries := wrapping.carries_argument carried
  refine (wrapping.alike_classOfCall _ call (wrapping.rel_receiver call)).bind_eq fun keys => ?_
  refine ((carries 0).alike_docText wrapping _).bind_eq fun doc => ?_
  refine ((carries 1).alike_target wrapping _).bind ?_
  rintro target _ rfl
  cases target with
  | call | construct =>
      refine .of_eq ?_
      simp only [wrapping.signature_placed, wrapping.callable_place, wrapping.location_place]
      rfl
  | read | write => exact .mismatch ..

theorem alike_freeMethod
    (wrapping : Wrapping unit wrapped place)
    (idiom : Idiom)
    (call : NodeId)
    (cppType : CppType)
    (name : String)
    (target : Target) :
    Alike Eq (freeMethod unit idiom call cppType name target)
      (freeMethod wrapped idiom (place call) cppType name (target.placed place)) := by
  simp only [freeMethod, wrapping.parameters_placed, wrapping.signature_placed]
  split
  · exact .refl _
  · split
    · exact .mismatch ..
    · exact .refl _

theorem alike_addMethod
    (wrapping : Wrapping unit wrapped place)
    (isStatic : Bool)
    (call : NodeId) :
    Alike Eq (addMethod unit isStatic call) (addMethod wrapped isStatic (place call)) := by
  refine (wrapping.alike_arguments _ call 3 3).bind fun found others carried => ?_
  have carries := wrapping.carries_argument carried
  refine (wrapping.alike_classOfCall _ call (wrapping.rel_receiver call)).bind_eq fun keys => ?_
  refine ((carries 0).alike_stringLiteral wrapping _).bind_eq fun name => ?_
  refine ((carries 1).alike_docText wrapping _).bind_eq fun doc => ?_
  refine ((carries 2).alike_target wrapping _).bind ?_
  rintro target _ rfl
  simp only [wrapping.isMember_placed, wrapping.signature_placed, wrapping.location_place,
    wrapping.callable_place]
  cases isStatic || target.isMember unit with
  | true =>
      cases target with
      | construct => exact .mismatch ..
      | call | read | write => exact .refl _
  | false =>
      have free := wrapping.alike_freeMethod
        (if isStatic then Idiom.addStaticMethod else Idiom.addMethod) call keys.cppType name target
      cases target with
      | construct => exact .mismatch ..
      | call | read | write => exact free.bind_eq fun _ => .refl _

/-! ## Properties -/

theorem alike_getterType
    (carries : Carries unit wrapped place id other)
    (wrapping : Wrapping unit wrapped place)
    (idiom : Idiom) :
    Alike Eq (getterType unit idiom id) (getterType wrapped idiom other) := by
  rw [getterType, getterType, carries.isNull_eq wrapping]
  split
  · exact .refl _
  · refine (carries.alike_target wrapping _).bind ?_
    rintro target _ rfl
    cases target with
    | call | read => exact .of_eq (congrArg Except.ok (wrapping.returnType_placed _).symm)
    | construct | write => exact .mismatch ..

theorem alike_setterParameter
    (carries : Carries unit wrapped place id other)
    (wrapping : Wrapping unit wrapped place)
    (idiom : Idiom) :
    Alike Eq (setterParameter unit idiom id) (setterParameter wrapped idiom other) := by
  rw [setterParameter, setterParameter, carries.isNull_eq wrapping]
  split
  · exact .refl _
  · refine (carries.alike_target wrapping _).bind ?_
    rintro target _ rfl
    simp only [wrapping.isMember_placed, wrapping.parameters_placed]
    generalize (target.parameters unit).drop _ = visible
    match target, visible with
    | .construct _, _ => exact .mismatch ..
    | .call _ _, [] | .read _, [] | .write _, [] => exact .mismatch ..
    | .call _ _, [_] | .read _, [_] | .write _, [_] => exact .refl _
    | .call _ _, _ :: _ :: _ | .read _, _ :: _ :: _ | .write _, _ :: _ :: _ => exact .mismatch ..

theorem alike_addProperty
    (wrapping : Wrapping unit wrapped place)
    (call : NodeId) :
    Alike Eq (addProperty unit call) (addProperty wrapped (place call)) := by
  refine (wrapping.alike_arguments _ call 3 4).bind fun found others carried => ?_
  have carries := wrapping.carries_argument carried
  refine (wrapping.alike_classOfCall _ call (wrapping.rel_receiver call)).bind_eq fun keys => ?_
  refine ((carries 0).alike_stringLiteral wrapping _).bind_eq fun name => ?_
  refine ((carries 1).alike_docText wrapping _).bind_eq fun doc => ?_
  refine (wrapping.alike_getterType (carries 2) _).bind_eq fun getter => ?_
  simp only [wrapping.location_place]
  match found[3]?, others[3]?, rel_getElem? carried 3 with
  | none, none, .none =>
      cases getter with
      | none => exact .mismatch ..
      | some type => exact .refl _
  | some _, some _, .some carriesLast =>
      refine (wrapping.alike_setterParameter carriesLast _).bind_eq fun setter => ?_
      split
      · exact .mismatch ..
      · exact .refl _

theorem alike_addStaticConstant
    (wrapping : Wrapping unit wrapped place)
    (call : NodeId) :
    Alike Eq (addStaticConstant unit call) (addStaticConstant wrapped (place call)) := by
  refine (wrapping.alike_arguments _ call 2 2).bind fun found others carried => ?_
  have carries := wrapping.carries_argument carried
  refine ((carries 0).alike_stringLiteral wrapping _).bind_eq fun name => ?_
  simp only [(carries 1).expressionType?_eq wrapping]
  split
  · exact .mismatch ..
  · refine ((carries 1).alike_literal? wrapping).bind_eq fun value => ?_
    refine (wrapping.alike_ofCall _ call (wrapping.rel_receiver call)).bind_eq fun receiver => ?_
    exact .of_eq (by simp only [wrapping.location_place])

/-! ## Nesting and conversions -/

theorem alike_addInnerClass
    (wrapping : Wrapping unit wrapped place)
    (call : NodeId) :
    Alike Eq (addInnerClass unit call) (addInnerClass wrapped (place call)) := by
  refine (wrapping.alike_arguments _ call 1 1).bind fun found others carried => ?_
  have carries := wrapping.carries_argument carried
  refine (wrapping.alike_classOfCall _ call (wrapping.rel_receiver call)).bind_eq fun keys => ?_
  refine ((carries 0).alike_classKeys wrapping _).bind_eq fun inner => ?_
  exact .of_eq (by simp only [wrapping.location_place])

theorem alike_addInnerEnum
    (wrapping : Wrapping unit wrapped place)
    (call : NodeId) :
    Alike Eq (addInnerEnum unit call) (addInnerEnum wrapped (place call)) := by
  refine (wrapping.alike_arguments _ call 1 1).bind fun found others carried => ?_
  have carries := wrapping.carries_argument carried
  refine (wrapping.alike_classOfCall _ call (wrapping.rel_receiver call)).bind_eq fun keys => ?_
  refine ((carries 0).alike_enumKey wrapping _).bind_eq fun cppName => ?_
  exact .of_eq (by simp only [wrapping.location_place])

theorem alike_addImplicitConverter
    (wrapping : Wrapping unit wrapped place)
    (call : NodeId) :
    Alike Eq (addImplicitConverter unit call) (addImplicitConverter wrapped (place call)) := by
  refine (wrapping.alike_arguments _ call 1 1).bind fun found others carried => ?_
  have carries := wrapping.carries_argument carried
  refine (wrapping.alike_classOfCall _ call (wrapping.rel_receiver call)).bind_eq fun keys => ?_
  refine ((carries 0).alike_target wrapping _).bind ?_
  rintro target _ rfl
  simp only [wrapping.parameters_placed, wrapping.location_place]
  generalize target.parameters unit = parameters
  match target, parameters with
  | .read _, _ | .write _, _ => exact .mismatch ..
  | .call _ _, [_] | .construct _, [_] => exact .refl _
  | .call _ _, [] | .construct _, [] => exact .mismatch ..
  | .call _ _, _ :: _ :: _ | .construct _, _ :: _ :: _ => exact .mismatch ..

/-- A call at its place has the effect of the call. -/
theorem sameEffect_registrations
    (wrapping : Wrapping unit wrapped place)
    (sameDeclarations : ∀ name,
      wrapped.typeDeclaration? name = (unit.typeDeclaration? name).map place)
    (idiom : Idiom)
    (call : NodeId) :
    Alike Registration.SameEffect (registrations unit idiom call)
      (registrations wrapped idiom (place call)) := by
  cases idiom with
  | declareModule => exact (wrapping.alike_declareModule call).sameEffect
  | declareClass => exact wrapping.sameEffect_declareClass call
  | declareEnum => exact (wrapping.alike_declareEnum sameDeclarations call).sameEffect
  | addFunction => exact (wrapping.alike_addFunction call).sameEffect
  | addClass => exact (wrapping.alike_addClass call).sameEffect
  | addEnum => exact (wrapping.alike_addEnum call).sameEffect
  | addConstructor => exact (wrapping.alike_addConstructor call).sameEffect
  | addMethod => exact (wrapping.alike_addMethod false call).sameEffect
  | addStaticMethod => exact (wrapping.alike_addMethod true call).sameEffect
  | addProperty => exact (wrapping.alike_addProperty call).sameEffect
  | addStaticConstant => exact (wrapping.alike_addStaticConstant call).sameEffect
  | addInnerClass => exact (wrapping.alike_addInnerClass call).sameEffect
  | addInnerEnum => exact (wrapping.alike_addInnerEnum call).sameEffect
  | addImplicitConverter => exact (wrapping.alike_addImplicitConverter call).sameEffect

end Wrapping

end TranslationUnit

end BindingStubs
