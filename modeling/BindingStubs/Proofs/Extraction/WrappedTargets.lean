import BindingStubs.Extraction.Dispatcher
import BindingStubs.Extraction.Exporter
import BindingStubs.Proofs.Extraction.WrappedShapes

namespace BindingStubs

/-!
# Dispatchers and exporters do not see wrappers

The target of a dispatcher is found at its place, whatever wrappers stand around the lambda, the
reference, the expression that the body evaluates or the member that it assigns.  Parameter and
return types are read from declarations, which no wrapper is added to.
-/

namespace Target

/-- A target with its nodes at their places. -/
def placed
    (place : NodeId → NodeId) :
    Target → Target
  | .call declaration site => .call (place declaration) (site.map place)
  | .construct declaration => .construct (place declaration)
  | .read field => .read (place field)
  | .write field => .write (place field)

/-- Whether a target is another one with its nodes at their places. -/
def IsPlaced
    (place : NodeId → NodeId)
    (target found : Target) :
    Prop :=
  found = target.placed place

@[simp] theorem declaration_placed
    (place : NodeId → NodeId)
    (target : Target) :
    (target.placed place).declaration = place target.declaration := by
  cases target <;> rfl

end Target

namespace TranslationUnit

open Shape

variable {unit wrapped : TranslationUnit} {place : NodeId → NodeId} {id other : NodeId}

namespace Wrapping

/-! ## What a target says -/

theorem isMember_placed
    (wrapping : Wrapping unit wrapped place)
    (target : Target) :
    (target.placed place).isMember wrapped = target.isMember unit := by
  cases target with
  | call declaration site =>
      have sameStatic :
          (wrapped.node (place declaration)).isStatic = (unit.node declaration).isStatic :=
        congrArg NodeSpec.isStatic (wrapping.spec declaration)
      simp only [Target.placed, Target.isMember, wrapping.kind_place, sameStatic]
  | construct | read | write => rfl

theorem declaredParameters_place
    (wrapping : Wrapping unit wrapped place)
    (declaration : NodeId) :
    Target.declaredParameters wrapped (place declaration) =
      Target.declaredParameters unit declaration := by
  rw [Target.declaredParameters, wrapping.childrenOfKind_place .parameter rfl,
    wrapping.typeSpelling?_place, Target.declaredParameters]
  cases unit.childrenOfKind declaration .parameter with
  | nil => rfl
  | cons first rest => simp [wrapping.spelling_place, wrapping.type?_place]

theorem parameters_placed
    (wrapping : Wrapping unit wrapped place)
    (target : Target) :
    (target.placed place).parameters wrapped = target.parameters unit := by
  cases target with
  | call declaration | construct declaration => exact wrapping.declaredParameters_place declaration
  | read => rfl
  | write field => simp only [Target.placed, Target.parameters, wrapping.type?_place]

theorem returnType_placed
    (wrapping : Wrapping unit wrapped place)
    (target : Target) :
    (target.placed place).returnType wrapped = target.returnType unit := by
  cases target with
  | call declaration site =>
      have sameResult :
          (wrapped.node (place declaration)).resultType = (unit.node declaration).resultType :=
        congrArg NodeSpec.resultType (wrapping.spec declaration)
      have sameSite : (site.map place).bind wrapped.type? = site.bind unit.type? := by
        cases site with
        | none => rfl
        | some call => exact wrapping.type?_place call
      simp only [Target.placed, Target.returnType, sameSite, sameResult]
  | construct | write => rfl
  | read field => exact wrapping.type?_place field

theorem signature_placed
    (wrapping : Wrapping unit wrapped place)
    (target : Target)
    (hidden : Nat) :
    (target.placed place).signature wrapped hidden = target.signature unit hidden := by
  simp only [Target.signature, wrapping.returnType_placed, wrapping.parameters_placed,
    Target.declaration_placed, wrapping.typeSpelling?_place]

theorem cppSignature_placed
    (wrapping : Wrapping unit wrapped place)
    (target : Target) :
    (target.placed place).cppSignature wrapped = target.cppSignature unit := by
  simp only [Target.cppSignature, Target.declaration_placed, wrapping.qualifiedName_place,
    wrapping.typeSpelling?_place]

/-! ## Finding the target -/

theorem alike_ofReference
    (wrapping : Wrapping unit wrapped place)
    (idiom : String)
    (reference : NodeId) :
    Alike (Target.IsPlaced place) (Dispatcher.ofReference unit idiom reference)
      (Dispatcher.ofReference wrapped idiom (place reference)) := by
  rw [Dispatcher.ofReference, Dispatcher.ofReference, wrapping.referenced?_place,
    wrapping.filter_map_place NodeKind.isFunctionLike]
  cases (unit.referenced? reference).filter fun id => (unit.kind id).isFunctionLike with
  | none => exact .mismatch ..
  | some declaration => exact .ok rfl

/-- The body of a lambda is found at its place. -/
theorem lambdaBody?_place
    (wrapping : Wrapping unit wrapped place)
    (lambda : NodeId) :
    Dispatcher.lambdaBody? wrapped (place lambda) =
      (Dispatcher.lambdaBody? unit lambda).map place := by
  have records :
      ((wrapped.children (place lambda)).filter fun id => (wrapped.kind id).isRecord) =
        ((unit.children lambda).filter fun id => (unit.kind id).isRecord).map place := by
    refine wrapping.filter_children_place NodeKind.isRecord (fun kind expression => ?_) lambda
    cases kind <;> first | rfl | cases expression
  have methods (nodes : List NodeId) :
      ((nodes.map place).flatMap fun record => wrapped.childrenOfKind record .method) =
        (nodes.flatMap fun record => unit.childrenOfKind record .method).map place := by
    rw [List.flatMap_map, List.map_flatMap]
    exact congrArg (List.flatMap · nodes) (funext (wrapping.childrenOfKind_place .method rfl))
  have bodies (node : NodeId) :
      wrapped.childrenOfKind (place node) .compoundStatement =
        (unit.childrenOfKind node .compoundStatement).map place :=
    wrapping.childrenOfKind_place .compoundStatement rfl node
  have closureBody (callOperator : Option NodeId) :
      ((callOperator.map place).bind fun method =>
          (wrapped.childrenOfKind method .compoundStatement).head?) =
        (callOperator.bind fun method =>
          (unit.childrenOfKind method .compoundStatement).head?).map place := by
    cases callOperator with
    | none => rfl
    | some method => simp [bodies]
  simp only [Dispatcher.lambdaBody?, records, methods, bodies, List.find?_map, Function.comp_def,
    wrapping.spelling_place, closureBody, List.getLast?_map]
  generalize Option.bind _ _ = ofClosure
  cases ofClosure <;> rfl

theorem bind_referenced?_place
    (wrapping : Wrapping unit wrapped place)
    (found : Option NodeId) :
    (found.map place).bind wrapped.referenced? = (found.bind unit.referenced?).map place := by
  cases found with
  | none => rfl
  | some id => exact wrapping.referenced?_place id

theorem alike_ofExpression
    (wrapping : Wrapping unit wrapped place)
    (idiom : String)
    (expression : NodeId) :
    Alike (Target.IsPlaced place) (Dispatcher.ofExpression unit idiom expression)
      (Dispatcher.ofExpression wrapped idiom (place expression)) := by
  simp only [Dispatcher.ofExpression, wrapping.kind_place, wrapping.spelling_place,
    wrapping.referenced?_place, wrapping.unwrap_child?_place,
    wrapping.filter_map_place (· == .memberReference), wrapping.bind_referenced?_place,
    wrapping.filter_map_place (· == .field)]
  split
  · -- a call
    cases unit.referenced? expression with
    | none => exact .mismatch ..
    | some declaration => exact .ok rfl
  · -- a construction
    cases unit.referenced? expression with
    | none => exact .mismatch ..
    | some declaration => exact .ok rfl
  · -- a member that is read
    cases (unit.referenced? expression).filter fun id => unit.kind id == .field with
    | none => exact .mismatch ..
    | some field => exact .ok rfl
  · split
    · -- a member that is assigned
      generalize Option.filter _ _ = assigned
      cases assigned with
      | none => exact .mismatch ..
      | some field => exact .ok rfl
    · exact .mismatch ..

/-- A lambda at its place has the target of the lambda. -/
theorem alike_ofLambda
    (wrapping : Wrapping unit wrapped place)
    (idiom : String)
    (lambda : NodeId) :
    Alike (Target.IsPlaced place) (Dispatcher.ofLambda unit idiom lambda)
      (Dispatcher.ofLambda wrapped idiom (place lambda)) := by
  rw [Dispatcher.ofLambda, Dispatcher.ofLambda, wrapping.lambdaBody?_place]
  cases Dispatcher.lambdaBody? unit lambda with
  | none => exact .mismatch ..
  | some body =>
      simp only [Option.map_some]
      match unit.children body, wrapped.children (place body), wrapping.children body with
      | _, _, .nil => exact .mismatch ..
      | _, _, .cons _ (.cons _ _) => exact .mismatch ..
      | [statement], [other], .cons carries .nil =>
          simp only [carries.kind_eq_iff wrapping .returnStatement rfl]
          split
          · -- a return statement is no expression, but what it returns may be wrapped
            rename_i returns
            have atPlace : other = place statement :=
              carries.eq_place_of_not_isExpression (returns ▸ rfl)
            subst atPlace
            match unit.child? statement 0, wrapped.child? (place statement) 0,
              wrapping.rel_child? statement 0 with
            | none, none, .none => exact .mismatch ..
            | some expression, some _, .some carriesExpression =>
                simp only [carriesExpression.unwrap_eq wrapping]
                exact wrapping.alike_ofExpression idiom _
          · rw [carries.unwrap_eq wrapping]
            exact wrapping.alike_ofExpression idiom _

end Wrapping

theorem Carries.alike_target
    (carries : Carries unit wrapped place id other)
    (wrapping : Wrapping unit wrapped place)
    (idiom : String) :
    Alike (Target.IsPlaced place) (Dispatcher.target unit idiom id)
      (Dispatcher.target wrapped idiom other) := by
  simp only [Dispatcher.target, carries.unwrap_eq wrapping, wrapping.kind_place,
    wrapping.spelling_place, wrapping.unwrap_child?_place,
    wrapping.filter_map_place (· == .declarationReference)]
  generalize unwrap unit id = inner
  split
  · exact wrapping.alike_ofLambda idiom inner
  · exact wrapping.alike_ofReference idiom inner
  · split
    · -- the address of a function
      cases ((unit.child? inner 0).map (unwrap unit)).filter fun id =>
          unit.kind id == .declarationReference with
      | none => exact .mismatch ..
      | some reference => exact wrapping.alike_ofReference idiom reference
    · exact .mismatch ..

/-! ## Exporters -/

namespace Wrapping

theorem isExporter_place
    (wrapping : Wrapping unit wrapped place)
    (record : NodeId) :
    Exporter.isExporter wrapped (place record) = Exporter.isExporter unit record := by
  rw [Exporter.isExporter, wrapping.childrenOfKind_place .baseSpecifier rfl, List.any_map,
    Exporter.isExporter]
  simp only [Function.comp_def, wrapping.type?_place, wrapping.spelling_place]

/-- The first child that is a part of the language carries over. -/
theorem rel_find?_children
    (wrapping : Wrapping unit wrapped place)
    (id : NodeId)
    {question : NodeKind → Bool}
    (same : NodeKind.SameForExpressions question) :
    Option.Rel (Carries unit wrapped place)
      ((unit.children id).find? fun child => question (unit.kind child))
      ((wrapped.children (place id)).find? fun child => question (wrapped.kind child)) := by
  rw [← List.head?_filter, ← List.head?_filter]
  match List.filter _ (unit.children id), List.filter _ (wrapped.children (place id)),
    wrapping.forall₂_filter (wrapping.children id) same with
  | _, _, .nil => exact .none
  | _, _, .cons carries _ => exact .some carries

theorem alike_memberText?
    (wrapping : Wrapping unit wrapped place)
    (record : NodeId)
    (name : String) :
    Alike Eq (Exporter.memberText? unit record name)
      (Exporter.memberText? wrapped (place record) name) := by
  rw [Exporter.memberText?, Exporter.memberText?,
    wrapping.childrenOfKind_place .variableDeclaration rfl, List.find?_map]
  simp only [Function.comp_def, wrapping.spelling_place]
  cases (unit.childrenOfKind record .variableDeclaration).find? fun id =>
      unit.spelling id == name with
  | none => exact .refl _
  | some member =>
      simp only [Option.map_some]
      match List.find? _ (unit.children member), List.find? _ (wrapped.children (place member)),
        wrapping.rel_find?_children member (NodeKind.sameForExpressions_bne .other rfl)
        with
      | none, none, .none => exact .mismatch ..
      | some _, some _, .some carries =>
          exact (carries.alike_stringLiteral wrapping Exporter.idiom).map_eq _

/-- An exporter at its place declares the rule of the exporter. -/
theorem alike_rule
    (wrapping : Wrapping unit wrapped place)
    (record : NodeId) :
    Alike Eq (Exporter.rule unit record) (Exporter.rule wrapped (place record)) := by
  have parameters :
      ((wrapped.children (place record)).filter fun id =>
          wrapped.kind id == .templateTypeParameter
            || wrapped.kind id == .nonTypeTemplateParameter) =
        ((unit.children record).filter fun id =>
          unit.kind id == .templateTypeParameter
            || unit.kind id == .nonTypeTemplateParameter).map place := by
    let asks (kind : NodeKind) : Bool :=
      kind == .templateTypeParameter || kind == .nonTypeTemplateParameter
    refine wrapping.filter_children_place asks (fun kind expression => ?_) record
    cases kind <;> first | rfl | cases expression
  rw [Exporter.rule, Exporter.rule, wrapping.childrenOfKind_place .templateArgument rfl]
  match unit.childrenOfKind record .templateArgument with
  | [] => exact .mismatch ..
  | _ :: _ :: _ => exact .mismatch ..
  | [argument] =>
      simp only [List.map_cons, List.map_nil, wrapping.type?_place, parameters, List.map_map,
        Function.comp_def, wrapping.spelling_place, wrapping.location_place]
      cases unit.type? argument with
      | none => exact .mismatch ..
      | some matched =>
          refine (wrapping.alike_memberText? record _).bind_eq fun rendering => ?_
          cases rendering with
          | none => exact .mismatch ..
          | some rendering =>
              exact (wrapping.alike_memberText? record _).bind_eq fun _ => .refl _

end Wrapping

end TranslationUnit

end BindingStubs
