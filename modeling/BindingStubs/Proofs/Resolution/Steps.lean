import BindingStubs.Proofs.Resolution.Choice

namespace BindingStubs.Resolution

/-!
# One step of resolution

Resolving a type is a step that takes the rendering of its parts as given.  Which parts these are
is told by the model and the type alone: what the rule that is applied refers to, the arguments
that a standard template shows, the pieces of a function type, or what a pointer points to.
-/

/-- Render a type, given how its parts are rendered. -/
def resolveBy
    (resolvePart : CppType → Resolving String)
    (context : ResolutionScope)
    (type : CppType) :
    Resolving String := do
  match ← entityName? context type with
  | some name => return name
  | none =>
      match ← byRules? resolvePart context type with
      | some rendered => return rendered
      | none =>
          match ← byBuiltin? resolvePart type with
          | some rendered => return rendered
          | none =>
              match type.pointee? with
              | some pointee => resolvePart pointee
              | none => return type.text

/-- Render a part of a type; one that is no smaller is refused. -/
def resolveSmaller
    (context : ResolutionScope)
    (type part : CppType) :
    Resolving String :=
  if weight part < weight type then resolve context part else throw (.endless part.text)

/-- Resolution is the step that renders smaller parts. -/
theorem resolve_eq
    (context : ResolutionScope)
    (type : CppType) :
    resolve context type = resolveBy (resolveSmaller context type) context type := by
  rw [resolve]
  simp only [dite_eq_ite]
  rfl

theorem resolveSmaller_of_lt
    (context : ResolutionScope)
    {type part : CppType}
    (smaller : weight part < weight type) :
    resolveSmaller context type part = resolve context part :=
  if_pos smaller

/-! ## The parts of a type -/

/-- Whether a type is that of a registered class or enum. -/
def isEntity
    (model : BindingModel)
    (type : CppType) :
    Bool :=
  match model.classForType? type with
  | some entity => (model.class? entity.shadowKey).isSome
  | none =>
      match type with
      | .applied _ _ => false
      | .plain name => (model.enum? name).isSome

/-- The bindings that a choice renders. -/
def RuleChoice.parts : RuleChoice → List CppType
  | .applied rule bindings => (rule.parameters.filter (refersTo rule)).filterMap bindings.get?
  | _ => []

/-- What a standard template renders, if it has a rendering of its shape. -/
def shapeParts?
    (type : CppType) :
    Builtin.Shape → Option (List CppType)
  | .text => some []
  | .complex => some []
  | .sequence => some (type.argument? 0).toList
  | .set => some (type.argument? 0).toList
  | .optional => some (type.argument? 0).toList
  | .pointee => some (type.argument? 0).toList
  | .mapping => some ((type.argument? 0).toList ++ (type.argument? 1).toList)
  | .tuple => some (type.arguments?.getD [])
  | .union => some (type.arguments?.getD [])
  | .function =>
      ((type.argument? 0).bind fun argument => FunctionType.split? argument.spell).map
        fun function =>
          function.parameters.map CppType.parse ++ [CppType.parse function.returns]

/-- What a built-in type renders, if it is one. -/
def builtinParts?
    (type : CppType) :
    Option (List CppType) :=
  match type with
  | .plain name => (Builtin.scalar? name).map fun _ => []
  | .applied name _ =>
      if type.isPointer then none else (Builtin.shape? name).bind (shapeParts? type)

/-- The types that the rendering of a type turns to. -/
def parts
    (model : BindingModel)
    (type : CppType) :
    List CppType :=
  if isEntity model type then []
  else
    match chooseRule (model.rulesFor type.name) type with
    | .unmatched => (builtinParts? type).getD type.pointee?.toList
    | choice => choice.parts

/-- What the chosen rule renders is part of a type that is no entity. -/
theorem mem_parts_of_mem_choice
    {model : BindingModel}
    {type part : CppType}
    (unnamed : isEntity model type = false)
    (member : part ∈ (chooseRule (model.rulesFor type.name) type).parts) :
    part ∈ parts model type := by
  rw [parts, unnamed]
  cases chosen : chooseRule (model.rulesFor type.name) type with
  | unmatched =>
      rw [chosen] at member
      cases member
  | applied rule bindings =>
      rw [chosen] at member
      exact member
  | ambiguous candidates =>
      rw [chosen] at member
      cases member

/-! ## What a computation can come to -/

/-- Outcomes can be compared, so that computations on given models can be evaluated. -/
instance outcomeDecidableEq
    {Value : Type}
    [DecidableEq Value] :
    DecidableEq (EStateM.Result Fault (List String) Value)
  | .ok value after, .ok value' after' =>
      decidable_of_iff (value = value' ∧ after = after') (by simp)
  | .error fault after, .error fault' after' =>
      decidable_of_iff (fault = fault' ∧ after = after') (by simp)
  | .ok _ _, .error _ _ => isFalse nofun
  | .error _ _, .ok _ _ => isFalse nofun

/-- A computation comes to a value from some prelude. -/
def ComesTo
    {Value : Type}
    (computation : Resolving Value)
    (value : Value) :
    Prop :=
  ∃ prelude after, computation prelude = .ok value after

theorem ComesTo.intro
    {Value : Type}
    {computation : Resolving Value}
    {value : Value}
    {prelude after : List String}
    (outcome : computation prelude = .ok value after) :
    ComesTo computation value :=
  ⟨prelude, after, outcome⟩

theorem ComesTo.map
    {Value Result : Type}
    {computation : Resolving Value}
    {value : Value}
    (comesTo : ComesTo computation value)
    {change : Value → Result} :
    ComesTo (do return change (← computation)) (change value) := by
  obtain ⟨prelude, after, outcome⟩ := comesTo
  refine ⟨prelude, after, ?_⟩
  simp only [Bind.bind, EStateM.bind, outcome]
  rfl

/-- Every value that a computation comes to satisfies a condition. -/
def Yields
    {Value : Type}
    (computation : Resolving Value)
    (condition : Value → Prop) :
    Prop :=
  ∀ value, ComesTo computation value → condition value

namespace Yields

variable
  {Value Result : Type}
  {condition : Value → Prop}
  {wanted : Result → Prop}

theorem pure
    {value : Value}
    (holds : condition value) :
    Yields (Pure.pure value) condition := by
  rintro other ⟨prelude, after, outcome⟩
  cases outcome
  exact holds

theorem throw
    (fault : Fault) :
    Yields (MonadExcept.throw fault) condition :=
  fun _ => nofun

theorem imp
    {computation : Resolving Value}
    {weaker : Value → Prop}
    (yields : Yields computation condition)
    (weaken : ∀ {value}, condition value → weaker value) :
    Yields computation weaker :=
  fun value comesTo => weaken (yields value comesTo)

theorem bind_of_yields
    {computation : Resolving Value}
    {next : Value → Resolving Result}
    (first : Yields computation condition)
    (each : ∀ value, condition value → Yields (next value) wanted) :
    Yields (computation >>= next) wanted := by
  rintro result ⟨prelude, after, outcome⟩
  simp only [Bind.bind, EStateM.bind] at outcome
  cases inner : computation prelude with
  | ok value between =>
      rw [inner] at outcome
      exact each value (first value (.intro inner)) result (.intro outcome)
  | error fault between =>
      rw [inner] at outcome
      cases outcome

theorem bind
    {computation : Resolving Value}
    {next : Value → Resolving Result}
    (each : ∀ value, Yields (next value) wanted) :
    Yields (computation >>= next) wanted :=
  have anything : Yields computation fun _ => True := fun _ _ => trivial
  anything.bind_of_yields fun value _ => each value

end Yields

/-- Exactly the types of entities have a name. -/
theorem yields_entityName?
    (context : ResolutionScope)
    (type : CppType) :
    Yields (entityName? context type) fun name? => name?.isSome = isEntity context.model type := by
  simp only [entityName?, isEntity]
  cases context.model.classForType? type with
  | some entity =>
      simp only [className?]
      cases context.model.class? entity.shadowKey with
      | none => exact .pure rfl
      | some found =>
          simp only
          cases found.qualifiedName with
          | none => exact .throw _
          | some name => exact .bind fun _ => .pure rfl
  | none =>
      cases type with
      | applied name arguments => exact .pure rfl
      | plain name =>
          simp only
          cases context.model.enum? name with
          | none => exact .pure rfl
          | some entity =>
              simp only
              cases entity.qualifiedName with
              | none => exact .throw _
              | some qualified => exact .bind fun _ => .pure rfl

/-- Only where no rule matches, nothing is rendered by rules. -/
theorem yields_perform
    (resolvePart : CppType → Resolving String)
    (type : CppType)
    (choice : RuleChoice) :
    Yields (choice.perform resolvePart type) fun rendered? =>
      rendered? = none → choice = .unmatched := by
  cases choice with
  | unmatched => exact .pure fun _ => rfl
  | applied rule bindings => exact .bind fun _ => .pure nofun
  | ambiguous candidates => exact .throw _

theorem yields_byShape?
    (resolvePart : CppType → Resolving String)
    (type : CppType)
    (shape : Builtin.Shape) :
    Yields (byShape? resolvePart type shape) fun rendered? =>
      rendered?.isSome = (shapeParts? type shape).isSome := by
  cases shape with
  | text => exact .pure rfl
  | sequence => exact .bind fun _ => .pure rfl
  | set => exact .bind fun _ => .pure rfl
  | mapping => exact .bind fun _ => .bind fun _ => .pure rfl
  | optional => exact .bind fun _ => .pure rfl
  | tuple =>
      refine .bind fun rendered => ?_
      cases rendered.isEmpty with
      | true => exact .pure rfl
      | false => exact .pure rfl
  | function =>
      simp only [byShape?, shapeParts?]
      cases (type.argument? 0).bind fun argument => FunctionType.split? argument.spell with
      | none => exact .pure rfl
      | some function => exact .bind fun _ => .pure rfl
  | pointee => exact .bind fun _ => .pure rfl
  | complex => exact .pure rfl
  | union => exact .bind fun _ => .pure rfl

/-- Exactly the built-in types are rendered by the table. -/
theorem yields_byBuiltin?
    (resolvePart : CppType → Resolving String)
    (type : CppType) :
    Yields (byBuiltin? resolvePart type) fun rendered? =>
      rendered?.isSome = (builtinParts? type).isSome := by
  cases type with
  | plain name =>
      simp only [byBuiltin?, builtinParts?, Option.isSome_map]
      exact .pure rfl
  | applied name arguments =>
      simp only [byBuiltin?, builtinParts?]
      cases (CppType.applied name arguments).isPointer with
      | true => exact .pure rfl
      | false =>
          simp only [Bool.false_eq_true, ↓reduceIte]
          cases Builtin.shape? name with
          | none => exact .pure rfl
          | some shape => exact yields_byShape? resolvePart _ shape

end BindingStubs.Resolution
