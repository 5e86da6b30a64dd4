import BindingStubs.Proofs.Extraction.WrappedShapes

namespace BindingStubs

/-!
# Receivers do not see wrappers

A module is known by the variable above its declaring call or by the chain of calls that leads
back to it.  Added wrappers stand above the call and within the chain, and neither the variable
nor the end of the chain changes.
-/

namespace TranslationUnit

open Shape

variable {unit wrapped : TranslationUnit} {place : NodeId → NodeId} {id other : NodeId}

namespace Wrapping

/-! ## Variables -/

/-- A question that no wrapper answers is answered by the same nodes of a list without its
wrappers. -/
theorem any_plain
    {asks : NodeId → Bool}
    (passes : ∀ id, (unit.kind id).isTransparent → asks id = false)
    (nodes : List NodeId) :
    (unit.plain nodes).any asks = nodes.any asks := by
  rw [plain, List.any_filter]
  refine congrArg (List.any nodes) (funext fun id => ?_)
  cases transparent : (unit.kind id).isTransparent with
  | false => simp
  | true => simp [passes id transparent]

/-- The first node that is asked for before another kind of node ends the search is the same in a
list without its wrappers. -/
theorem find?_takeWhile_plain
    {goesOn asks : NodeId → Bool}
    (continues : ∀ id, (unit.kind id).isTransparent → goesOn id = true)
    (passes : ∀ id, (unit.kind id).isTransparent → asks id = false)
    (nodes : List NodeId) :
    ((unit.plain nodes).takeWhile goesOn).find? asks = (nodes.takeWhile goesOn).find? asks := by
  induction nodes with
  | nil => rfl
  | cons id rest inductionHypothesis =>
      rw [plain] at inductionHypothesis ⊢
      cases transparent : (unit.kind id).isTransparent with
      | true =>
          simp [transparent, continues id transparent, passes id transparent,
            inductionHypothesis]
      | false =>
          simp only [List.filter_cons, transparent, Bool.not_false, if_true, List.takeWhile_cons]
          split
          · rw [List.find?_cons, List.find?_cons, inductionHypothesis]
          · rfl

/-- A variable is local at its place when it is local. -/
theorem isLocal_place
    (wrapping : Wrapping unit wrapped place)
    (id : NodeId) :
    Receiver.isLocal wrapped (place id) = Receiver.isLocal unit id := by
  let asks (kind : NodeKind) : Bool :=
    kind.isFunctionLike || kind == .lambda || kind == .compoundStatement
  have passes (unit : TranslationUnit) (id : NodeId) (transparent : (unit.kind id).isTransparent) :
      asks (unit.kind id) = false :=
    NodeKind.answer_of_isTransparent asks rfl rfl rfl transparent
  calc
    Receiver.isLocal wrapped (place id)
      = (wrapped.plain (wrapped.ancestors (place id))).any fun id => asks (wrapped.kind id) :=
        (any_plain (passes wrapped) _).symm
    _ = (unit.plain (unit.ancestors id)).any fun id => asks (unit.kind id) := by
        rw [wrapping.plain_ancestors_place, List.any_map]
        exact congrArg (List.any _) (funext fun id => congrArg asks (wrapping.kind_place id))
    _ = Receiver.isLocal unit id := any_plain (passes unit) _

theorem variableKey_place
    (wrapping : Wrapping unit wrapped place)
    (id : NodeId) :
    Receiver.variableKey wrapped (place id) = Receiver.variableKey unit id := by
  simp only [Receiver.variableKey, wrapping.qualifiedName_place, wrapping.isLocal_place,
    wrapping.location_place]

/-- The variable that a call initializes is found at its place, through the wrappers above the
call. -/
theorem initializedVariable?_place
    (wrapping : Wrapping unit wrapped place)
    (id : NodeId) :
    Receiver.initializedVariable? wrapped (place id) =
      (Receiver.initializedVariable? unit id).map place := by
  let goesOn (kind : NodeKind) : Bool := kind != .compoundStatement && kind != .translationUnit
  let asks (kind : NodeKind) : Bool := kind == .variableDeclaration
  have continues (unit : TranslationUnit) (id : NodeId)
      (transparent : (unit.kind id).isTransparent) : goesOn (unit.kind id) = true :=
    NodeKind.answer_of_isTransparent goesOn rfl rfl rfl transparent
  have passes (unit : TranslationUnit) (id : NodeId)
      (transparent : (unit.kind id).isTransparent) : asks (unit.kind id) = false :=
    NodeKind.answer_of_isTransparent asks rfl rfl rfl transparent
  calc
    Receiver.initializedVariable? wrapped (place id)
      = ((wrapped.plain (wrapped.ancestors (place id))).takeWhile fun id =>
            goesOn (wrapped.kind id)).find? fun id => asks (wrapped.kind id) :=
        (find?_takeWhile_plain (continues wrapped) (passes wrapped) _).symm
    _ = (((unit.plain (unit.ancestors id)).takeWhile fun id =>
            goesOn (unit.kind id)).find? fun id => asks (unit.kind id)).map place := by
        rw [wrapping.plain_ancestors_place, List.takeWhile_map, List.find?_map]
        simp only [Function.comp_def, wrapping.kind_place]
    _ = (Receiver.initializedVariable? unit id).map place :=
        congrArg (Option.map place) (find?_takeWhile_plain (continues unit) (passes unit) _)

theorem declaredModuleKey_place
    (wrapping : Wrapping unit wrapped place)
    (call : NodeId)
    (name : String) :
    Receiver.declaredModuleKey wrapped (place call) name =
      Receiver.declaredModuleKey unit call name := by
  rw [Receiver.declaredModuleKey, wrapping.initializedVariable?_place, Receiver.declaredModuleKey]
  cases Receiver.initializedVariable? unit call with
  | none => rfl
  | some variableNode => exact wrapping.variableKey_place variableNode

end Wrapping

/-! ## Modules and classes -/

namespace Carries

theorem alike_moduleKeyWithin
    (carries : Carries unit wrapped place id other)
    (wrapping : Wrapping unit wrapped place)
    (idiom : String)
    (steps : Nat) :
    Alike Eq (Receiver.moduleKeyWithin unit idiom steps id)
      (Receiver.moduleKeyWithin wrapped idiom steps other) := by
  induction steps generalizing id other with
  | zero => exact .mismatch ..
  | succ steps inductionHypothesis =>
      simp only [Receiver.moduleKeyWithin, carries.unwrap_eq wrapping, wrapping.kind_place,
        wrapping.spelling_place, wrapping.referenced?_place,
        wrapping.filter_map_place (· == .variableDeclaration)]
      generalize unwrap unit id = inner
      split
      · -- a reference to a variable
        cases (unit.referenced? inner).filter fun target =>
            unit.kind target == .variableDeclaration with
        | none => exact .mismatch ..
        | some variableNode =>
            exact .of_eq (by simp only [Option.map_some, wrapping.variableKey_place])
      · split
        · -- the declaring call, known by its name when it initializes no variable
          match (callParts unit inner).arguments, (callParts wrapped (place inner)).arguments,
            wrapping.forall₂_arguments inner with
          | _, _, .nil => exact .of_eq (by simp only [wrapping.declaredModuleKey_place])
          | _, _, .cons carriesName _ =>
              refine (carriesName.alike_stringLiteral wrapping idiom).map fun name _ same => ?_
              rw [← same, wrapping.declaredModuleKey_place]
        · match (callParts unit inner).receiver, (callParts wrapped (place inner)).receiver,
            wrapping.rel_receiver inner with
          | none, none, .none => exact .mismatch ..
          | some _, some _, .some carriesObject => exact inductionHypothesis carriesObject
      · exact .mismatch ..

theorem alike_moduleKey
    (carries : Carries unit wrapped place id other)
    (wrapping : Wrapping unit wrapped place)
    (idiom : String) :
    Alike Eq (Receiver.moduleKey unit idiom id) (Receiver.moduleKey wrapped idiom other) := by
  rw [Receiver.moduleKey, Receiver.moduleKey, wrapping.longestChain_eq]
  exact carries.alike_moduleKeyWithin wrapping idiom _

end Carries

namespace Wrapping

variable {object otherObject : Option NodeId}

theorem alike_ofCall
    (wrapping : Wrapping unit wrapped place)
    (idiom : String)
    (call : NodeId)
    (carried : Option.Rel (Carries unit wrapped place) object otherObject) :
    Alike Eq (Receiver.ofCall unit idiom call object)
      (Receiver.ofCall wrapped idiom (place call) otherObject) := by
  cases carried with
  | none => exact .mismatch ..
  | some carries =>
      simp only [Receiver.ofCall, carries.expressionType?_eq wrapping, wrapping.type?_place]
      split
      · exact (carries.alike_classKeys wrapping idiom).bind_eq fun _ => .refl _
      · split
        · exact (carries.alike_moduleKey wrapping idiom).bind_eq fun _ => .refl _
        · exact .mismatch ..

theorem alike_moduleOfCall
    (wrapping : Wrapping unit wrapped place)
    (idiom : String)
    (call : NodeId)
    (carried : Option.Rel (Carries unit wrapped place) object otherObject) :
    Alike Eq (Receiver.moduleOfCall unit idiom call object)
      (Receiver.moduleOfCall wrapped idiom (place call) otherObject) := by
  refine (wrapping.alike_ofCall idiom call carried).bind_eq fun receiver => ?_
  cases receiver with
  | module key => exact .refl _
  | «class» keys => exact .mismatch ..

theorem alike_classOfCall
    (wrapping : Wrapping unit wrapped place)
    (idiom : String)
    (call : NodeId)
    (carried : Option.Rel (Carries unit wrapped place) object otherObject) :
    Alike Eq (Receiver.classOfCall unit idiom call object)
      (Receiver.classOfCall wrapped idiom (place call) otherObject) := by
  cases carried with
  | none => exact .mismatch ..
  | @some object otherObject carries =>
      simp only [Receiver.classOfCall]
      match classKeys unit idiom object, classKeys wrapped idiom otherObject,
        carries.alike_classKeys wrapping idiom with
      | _, _, .ok rfl => exact .refl _
      | _, _, .error _ _ => exact Carries.alike_classKeys (.here call) wrapping idiom

end Wrapping

end TranslationUnit

end BindingStubs
