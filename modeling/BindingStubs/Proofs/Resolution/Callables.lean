import BindingStubs.Proofs.CppType.Functions
import BindingStubs.Proofs.Resolution.Preludes
import BindingStubs.Proofs.Resolution.Termination

namespace BindingStubs.Resolution

/-!
# Callables

The argument of `std::function` is a name that is taken apart when the type is rendered.  What comes
out is the rendering of the return type and the parameters, as if the type had them as its parts.
-/

/-- Lists of types are rendered alike where their types are. -/
theorem resolveAll_congr
    {one other : CppType → Resolving String}
    {types : List CppType}
    (same : ∀ type ∈ types, one type = other type) :
    resolveAll one types = resolveAll other types := by
  induction types with
  | nil => rfl
  | cons type rest inductionHypothesis =>
      obtain ⟨sameFirst, sameRest⟩ := List.forall_mem_cons.mp same
      rw [resolveAll, resolveAll, sameFirst, inductionHypothesis sameRest]

/-- Types that resolve are rendered in order from every prelude. -/
theorem exists_after_resolveAll
    {context : ResolutionScope}
    {types : List CppType}
    {texts : List String}
    (resolved : List.Forall₂ (fun type text => ComesTo (resolve context type) text) types texts)
    (prelude : List String) :
    ∃ after, resolveAll (resolve context) types prelude = .ok texts after := by
  induction resolved generalizing prelude with
  | nil => exact ⟨prelude, rfl⟩
  | @cons type text types texts comesTo _ inductionHypothesis =>
      obtain ⟨between, first⟩ := (steady_resolve context type).exists_after comesTo prelude
      obtain ⟨after, rest⟩ := inductionHypothesis between
      refine ⟨after, ?_⟩
      simp only [resolveAll, bind, EStateM.bind, first, rest]
      rfl

/-- A standard template that is not registered and not matched by a rule is rendered by its
shape. -/
theorem resolve_eq_of_byShape
    {context : ResolutionScope}
    {name : String}
    {arguments : List CppType}
    {shape : Builtin.Shape}
    {rendering : Resolving String}
    (unregistered : context.model.classForType? (.applied name arguments) = none)
    (unruled : ∀ rule ∈ context.model.rulesFor name, ¬ Matches rule (.applied name arguments))
    (unmarked : (CppType.applied name arguments).pointerDepth = 0)
    (shaped : Builtin.shape? name = some shape)
    (rendered :
      byShape? (resolveSmaller context (.applied name arguments)) (.applied name arguments) shape =
        do return some (← rendering)) :
    resolve context (.applied name arguments) = rendering := by
  have noEntity : entityName? context (.applied name arguments) = pure none := by
    simp only [entityName?, unregistered]
  have noRule :
      byRules? (resolveSmaller context (.applied name arguments)) context
        (.applied name arguments) = pure none := by
    rw [byRules?_eq, CppType.name, chooseRule_eq_unmatched unruled, RuleChoice.perform]
  have notPointer : (CppType.applied name arguments).isPointer = false := by
    simp [CppType.isPointer, unmarked]
  rw [resolve_eq, resolveBy, noEntity, pure_bind]
  simp only [noRule, pure_bind, byBuiltin?, notPointer, shaped, rendered, Bool.false_eq_true,
    ↓reduceIte, bind_assoc, bind_pure]

section Callables

variable
  {context : ResolutionScope}
  {returns : CppType}
  {parameters : List CppType}

/-- A callable is rendered as if its return type and its parameters were its parts. -/
theorem resolve_function
    (returnsNamed : returns.Named)
    (parametersNamed : ∀ parameter ∈ parameters, parameter.Named)
    (noVoid : ∀ parameter ∈ parameters, parameter ≠ .plain "void")
    (unregistered :
      context.model.classForType? (CppType.function returns parameters) = none)
    (unruled :
      ∀ rule ∈ context.model.rulesFor "std::function",
        ¬ Matches rule (CppType.function returns parameters)) :
    resolve context (CppType.function returns parameters) = do
      let texts ← resolveAll (resolve context) parameters
      let text ← resolve context returns
      declare Builtin.callableImport.toList
      return "Callable[[" ++ String.intercalate ", " texts ++ "], " ++ text ++ "]" := by
  have taken := CppType.split?_argument_function returnsNamed parametersNamed noVoid
  have readReturns : CppType.parse returns.spell = returns := returnsNamed.readable.parse_spell
  have readParameters : (parameters.map CppType.spell).map CppType.parse = parameters := by
    rw [List.map_map, List.map_congr_left, List.map_id]
    exact fun parameter member => (parametersNamed parameter member).readable.parse_spell
  have isPart :
      shapeParts? (CppType.function returns parameters) .function =
        some (parameters ++ [returns]) := by
    rw [shapeParts?, taken, Option.map_some, readReturns, readParameters]
  have smaller :
      ∀ part ∈ parameters ++ [returns],
        resolveSmaller context (CppType.function returns parameters) part =
          resolve context part :=
    fun part member =>
      resolveSmaller_of_lt context (weight_lt_of_mem_shapeParts isPart member)
  obtain ⟨smallerParameters, smallerReturns⟩ := List.forall_mem_append.mp smaller
  have shaped : Builtin.shape? "std::function" = some .function := by decide +kernel
  have unmarked := (CppType.parts_function returns parameters).2
  refine resolve_eq_of_byShape unregistered unruled unmarked shaped ?_
  rw [← CppType.function, byShape?, taken]
  simp only [resolveFunction, readReturns, readParameters, resolveAll_congr smallerParameters,
    smallerReturns returns (List.mem_singleton_self returns)]

/--
A type that is read from the text of `std::function`, a return type and parameters, none of which
is `void`, resolves to a callable of what the parameters and the return type resolve to, and asks
for the import of `Callable`, as long as no class and no rule takes the type itself.
-/
theorem callable_of_text
    {type : CppType}
    {texts : List String}
    {text : String}
    (returnsFormed : returns.Formed)
    (parametersFormed : ∀ parameter ∈ parameters, parameter.Formed)
    (noVoid : ∀ parameter ∈ parameters, parameter ≠ .plain "void")
    (isRead :
      CppType.ofString
          ("std::function<" ++ returns.text ++ " ("
            ++ String.intercalate ", " (parameters.map CppType.text) ++ ")>") =
        type)
    (unregistered : context.model.classForType? type = none)
    (unruled : ∀ rule ∈ context.model.rulesFor type.name, ¬ Matches rule type)
    (parametersResolve :
      List.Forall₂ (fun parameter text => ComesTo (resolve context parameter) text) parameters
        texts)
    (returnsResolve : ComesTo (resolve context returns) text)
    (prelude : List String) :
    ∃ after,
      resolve context type prelude =
          .ok ("Callable[[" ++ String.intercalate ", " texts ++ "], " ++ text ++ "]") after ∧
        Builtin.callableImport ∈ after := by
  have returnsNamed := returnsFormed.named
  have parametersNamed : ∀ parameter ∈ parameters, parameter.Named :=
    fun parameter member => (parametersFormed parameter member).named
  rw [← CppType.text_function, CppType.ofString_text_function returnsNamed parametersNamed]
    at isRead
  subst isRead
  obtain ⟨between, first⟩ := exists_after_resolveAll parametersResolve prelude
  obtain ⟨last, second⟩ := (steady_resolve context returns).exists_after returnsResolve between
  have isTrimmed : Text.trim Builtin.callableImport.toList = Builtin.callableImport.toList := by
    decide +kernel
  have notEmpty : Builtin.callableImport.toList ≠ [] := by decide +kernel
  obtain ⟨after, declared, member⟩ := exists_mem_of_declare isTrimmed notEmpty last
  rw [String.ofList_toList] at member
  refine ⟨after, ?_, member⟩
  rw [resolve_function returnsNamed parametersNamed noVoid unregistered unruled]
  simp only [bind, EStateM.bind, first, second, declared]
  rfl

end Callables

/-- The text of a callable that takes a callback behind a pointer, next to a rule for pointers. -/
theorem callable_of_text_with_callback :
    let context : ResolutionScope :=
      { model := { rules := ⟨[(pointerRule.bucketKey, [pointerRule])]⟩ } }
    let callable :=
      CppType.ofString
        "std::function<std::vector<int*> (std::function<bool (char)>*, double)>"
    (∀ rule ∈ context.model.rulesFor callable.name, ¬ Matches rule callable) ∧
      ∀ prelude, ∃ after,
        resolve context callable prelude =
            .ok "Callable[[Callable[[str], bool] | None, float], list[int | None]]" after ∧
          Builtin.callableImport ∈ after := by
  intro context callable
  let callback := (CppType.function (.plain "bool") [.plain "char"]).pointerTo
  let list : CppType := .applied "std::vector" [.plain "int*"]
  have callbackFormed : callback.Formed := by
    have returned : (CppType.plain "bool").WellFormed := by decide +kernel
    have taken : (CppType.plain "char").WellFormed := by decide +kernel
    exact .function 1 returned.formed (by simpa using taken.formed)
  have numberFormed : (CppType.plain "double").WellFormed := by decide +kernel
  have listFormed : list.WellFormed := by decide +kernel
  have noneBare : ∀ rule ∈ context.model.allRules, ¬ rule.IsBare := by decide +kernel
  have unruled : ∀ rule ∈ context.model.rulesFor callable.name, ¬ Matches rule callable := by
    decide +kernel
  have comesTo :
      ∀ type text after,
        weight type < 40 →
        resolveWithin (fun part => throw (.endless part.text)) context 40 type [] =
          .ok text after →
        ComesTo (resolve context type) text :=
    fun _ _ _ enough evaluated => .intro (resolve_of_resolveWithin noneBare enough evaluated)
  have callbackResolves :=
    comesTo callback "Callable[[str], bool] | None" [Builtin.callableImport] (by decide +kernel)
      (by decide +kernel)
  have numberResolves :=
    comesTo (.plain "double") "float" [] (by decide +kernel) (by decide +kernel)
  have listResolves := comesTo list "list[int | None]" [] (by decide +kernel) (by decide +kernel)
  refine ⟨unruled, fun prelude => ?_⟩
  exact
    callable_of_text listFormed.formed
      (List.forall_mem_cons.mpr ⟨callbackFormed, by simpa using numberFormed.formed⟩)
      (by decide +kernel) (congrArg CppType.ofString (by decide +kernel)) rfl unruled
      (.cons callbackResolves (.cons numberResolves .nil)) listResolves prelude

end BindingStubs.Resolution
