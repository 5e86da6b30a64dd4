import BindingStubs.Proofs.Resolution.Steps

namespace BindingStubs.Resolution

/-!
# The prelude does not decide what a type resolves to

A prelude is collected and never asked for anything but whether a declaration is in it already, so
that a type which resolves to a text before any other type was resolved does so after them as well.
-/

/-- A declaration without white space around it is in the prelude once it is recorded. -/
theorem exists_mem_of_declare
    {declaration : List Char}
    (isTrimmed : Text.trim declaration = declaration)
    (notEmpty : declaration ≠ [])
    (prelude : List String) :
    ∃ after,
      declare declaration prelude = .ok () after ∧ String.ofList declaration ∈ after := by
  refine ⟨_, rfl, ?_⟩
  rw [isTrimmed]
  have notEmpty : (String.ofList declaration).isEmpty = false := by
    simpa [String.isEmpty_iff, ← String.toList_inj] using notEmpty
  simp only [notEmpty, Bool.false_or, List.contains_eq_mem, decide_eq_true_eq]
  split
  · assumption
  · exact List.mem_append_right _ (List.mem_singleton.mpr rfl)

variable {Value Result : Type}

/-- What an outcome tells besides the prelude. -/
def verdict : EStateM.Result Fault (List String) Value → Except Fault Value
  | .ok value _ => .ok value
  | .error fault _ => .error fault

/-- A computation comes to the same value or to the same fault, whatever the prelude holds. -/
def Steady
    (computation : Resolving Value) :
    Prop :=
  ∀ prelude prelude', verdict (computation prelude) = verdict (computation prelude')

namespace Steady

theorem pure
    (value : Value) :
    Steady (Pure.pure value) :=
  fun _ _ => rfl

theorem throw
    (fault : Fault) :
    Steady (MonadExcept.throw fault : Resolving Value) :=
  fun _ _ => rfl

theorem declare
    (declaration : List Char) :
    Steady (declare declaration) :=
  fun _ _ => rfl

theorem bind
    {computation : Resolving Value}
    {next : Value → Resolving Result}
    (first : Steady computation)
    (second : ∀ value, Steady (next value)) :
    Steady (computation >>= next) := by
  intro prelude prelude'
  have same := first prelude prelude'
  simp only [Bind.bind, EStateM.bind]
  cases outcome : computation prelude with
  | ok value after =>
      cases outcome' : computation prelude' with
      | ok value' after' =>
          rw [outcome, outcome'] at same
          obtain rfl : value = value' := Except.ok.inj same
          exact second value after after'
      | error fault' after' =>
          rw [outcome, outcome'] at same
          cases same
  | error fault after =>
      cases outcome' : computation prelude' with
      | ok value' after' =>
          rw [outcome, outcome'] at same
          cases same
      | error fault' after' =>
          rw [outcome, outcome'] at same
          obtain rfl : fault = fault' := Except.error.inj same
          rfl

/-- What a steady computation comes to from some prelude, it comes to from each. -/
theorem exists_after
    {computation : Resolving Value}
    {value : Value}
    (steady : Steady computation)
    (comesTo : ComesTo computation value)
    (prelude : List String) :
    ∃ after, computation prelude = .ok value after := by
  obtain ⟨prelude', after', outcome'⟩ := comesTo
  have same := steady prelude prelude'
  rw [outcome'] at same
  cases outcome : computation prelude with
  | ok other after =>
      rw [outcome] at same
      exact ⟨after, by rw [Except.ok.inj same]⟩
  | error fault after =>
      rw [outcome] at same
      cases same

theorem declareAll
    (declarations : List (List Char)) :
    Steady (declareAll declarations) := by
  induction declarations with
  | nil => exact pure ()
  | cons declaration rest inductionHypothesis =>
      exact (declare declaration).bind fun _ => inductionHypothesis

/-! ## Names -/

section Names

variable (context : ResolutionScope)

theorem relative
    (name : String) :
    Steady (relative context name) := by
  rw [Resolution.relative]
  cases context.scope.bind (belowScope? · name) with
  | some rest => exact pure rest
  | none =>
      cases owningModule? context.model name with
      | some owner => exact (declare _).bind fun _ => pure name
      | none => exact pure name

theorem className?
    (shadowKey : String) :
    Steady (className? context shadowKey) := by
  simp only [Resolution.className?]
  cases context.model.class? shadowKey with
  | none => exact pure none
  | some entity =>
      simp only
      cases entity.qualifiedName with
      | none => exact throw _
      | some name => exact (relative context name).bind fun _ => pure _

theorem entityName?
    (type : CppType) :
    Steady (entityName? context type) := by
  simp only [Resolution.entityName?]
  cases context.model.classForType? type with
  | some entity => exact className? context entity.shadowKey
  | none =>
      cases type with
      | applied name arguments => exact pure none
      | plain name =>
          simp only
          cases context.model.enum? name with
          | none => exact pure none
          | some entity =>
              simp only
              cases entity.qualifiedName with
              | none => exact throw _
              | some qualified => exact (relative context qualified).bind fun _ => pure _

end Names

/-! ## Types -/

section Parts

variable
  {resolvePart : CppType → Resolving String}
  (parts : ∀ part, Steady (resolvePart part))

include parts

theorem resolveAll
    (types : List CppType) :
    Steady (resolveAll resolvePart types) := by
  induction types with
  | nil => exact pure []
  | cons type rest inductionHypothesis =>
      exact (parts type).bind fun _ => inductionHypothesis.bind fun _ => pure _

theorem resolveArgument
    (type : CppType)
    (index : Nat) :
    Steady (resolveArgument resolvePart type index) := by
  rw [Resolution.resolveArgument]
  cases type.argument? index with
  | some argument => exact parts argument
  | none => exact pure "object"

theorem resolveFunction
    (function : FunctionType) :
    Steady (resolveFunction resolvePart function) :=
  (resolveAll parts _).bind fun _ => (parts _).bind fun _ => (declare _).bind fun _ => pure _

theorem renderBindings
    (rule : TypeRule)
    (bindings : Bindings)
    (parameters : List String) :
    Steady (renderBindings resolvePart rule bindings parameters) := by
  induction parameters with
  | nil => exact pure []
  | cons parameter rest inductionHypothesis =>
      simp only [Resolution.renderBindings]
      cases bindings.get? parameter with
      | none => exact inductionHypothesis
      | some bound =>
          cases refersTo rule parameter with
          | false => exact inductionHypothesis
          | true => exact (parts bound).bind fun _ => inductionHypothesis.bind fun _ => pure _

theorem byRules?
    (context : ResolutionScope)
    (type : CppType) :
    Steady (byRules? resolvePart context type) := by
  rw [byRules?_eq]
  cases chooseRule (context.model.rulesFor type.name) type with
  | unmatched => exact pure none
  | applied rule bindings =>
      have applied : Steady (applyRule resolvePart rule bindings) :=
        (renderBindings parts rule bindings _).bind fun _ =>
          (declareAll _).bind fun _ => pure _
      exact applied.bind fun _ => pure _
  | ambiguous candidates => exact throw _

theorem byShape?
    (type : CppType)
    (shape : Builtin.Shape) :
    Steady (byShape? resolvePart type shape) := by
  cases shape with
  | text | complex => exact pure _
  | sequence | set | optional | pointee =>
      exact (resolveArgument parts type 0).bind fun _ => pure _
  | mapping =>
      exact (resolveArgument parts type 0).bind fun _ =>
        (resolveArgument parts type 1).bind fun _ => pure _
  | tuple =>
      refine (resolveAll parts _).bind fun rendered => ?_
      cases rendered.isEmpty with
      | true => exact pure _
      | false => exact pure _
  | function =>
      simp only [Resolution.byShape?]
      cases (type.argument? 0).bind fun argument => FunctionType.split? argument.spell with
      | none => exact pure none
      | some function => exact (resolveFunction parts function).bind fun _ => pure _
  | union => exact (resolveAll parts _).bind fun _ => pure _

theorem byBuiltin?
    (type : CppType) :
    Steady (byBuiltin? resolvePart type) := by
  cases type with
  | plain name => exact pure _
  | applied name arguments =>
      simp only [Resolution.byBuiltin?]
      cases (CppType.applied name arguments).isPointer with
      | true => exact pure none
      | false =>
          cases Builtin.shape? name with
          | none => exact pure none
          | some shape => exact byShape? parts _ shape

/-- A step is steady if the rendering of parts is. -/
theorem resolveBy
    (context : ResolutionScope)
    (type : CppType) :
    Steady (resolveBy resolvePart context type) := by
  refine (entityName? context type).bind fun name? => ?_
  cases name? with
  | some name => exact pure name
  | none =>
      refine (byRules? parts context type).bind fun rendered? => ?_
      cases rendered? with
      | some rendered => exact pure rendered
      | none =>
          refine (byBuiltin? parts type).bind fun rendered? => ?_
          cases rendered? with
          | some rendered => exact pure rendered
          | none =>
              cases type.pointee? with
              | some pointee => exact parts pointee
              | none => exact pure type.text

end Parts

end Steady

/-- What a type resolves to does not depend on what was resolved before. -/
theorem steady_resolve
    (context : ResolutionScope)
    (type : CppType) :
    Steady (resolve context type) := by
  induction type using resolve.induct context with
  | case1 type inductionHypothesis =>
      rw [resolve_eq]
      refine .resolveBy (fun part => ?_) context type
      rw [resolveSmaller]
      split
      · rename_i smaller
        exact inductionHypothesis part smaller
      · exact .throw _

end BindingStubs.Resolution
