import BindingStubs.Proofs.Resolution.Steps

namespace BindingStubs.Resolution

/-!
# Models in which types resolve alike

Resolution asks a model for the names of its entities and for the rule that its rules choose for a
type.  Where two models answer alike, every type resolves alike in both.  Faults are compared by
a relation that is given, so that the models may differ in what their ambiguities list.
-/

/-! ## Computations that come to the same -/

section Agreement

variable
  (SameFault : Fault → Fault → Prop)
  {Value : Type}

/-- Outcomes with the same value or with faults that are alike, and with the same prelude. -/
inductive SameOutcome :
    EStateM.Result Fault (List String) Value → EStateM.Result Fault (List String) Value → Prop where
  | ok (value : Value) (prelude : List String) : SameOutcome (.ok value prelude) (.ok value prelude)
  | error {fault fault' : Fault} (prelude : List String) :
      SameFault fault fault' →
      SameOutcome (.error fault prelude) (.error fault' prelude)

/-- Computations with the same outcome, whatever the prelude holds before. -/
def Agree
    (one other : Resolving Value) :
    Prop :=
  ∀ prelude, SameOutcome SameFault (one prelude) (other prelude)

end Agreement

namespace Agree

variable
  {SameFault : Fault → Fault → Prop}
  {Value Result : Type}

theorem pure
    (value : Value) :
    Agree SameFault (Pure.pure value) (Pure.pure value) :=
  fun prelude => .ok value prelude

theorem throw
    {fault fault' : Fault}
    (same : SameFault fault fault') :
    Agree SameFault (throw fault : Resolving Value) (throw fault') :=
  fun prelude => .error prelude same

/-- What follows has to agree on the values only that both computations come to. -/
theorem bind_of_comesTo
    {one other : Resolving Value}
    {next next' : Value → Resolving Result}
    (first : Agree SameFault one other)
    (second :
      ∀ value,
        ComesTo one value →
        ComesTo other value →
        Agree SameFault (next value) (next' value)) :
    Agree SameFault (one >>= next) (other >>= next') := by
  intro prelude
  have related := first prelude
  simp only [Bind.bind, EStateM.bind]
  generalize comes : one prelude = outcome at related ⊢
  generalize comes' : other prelude = outcome' at related ⊢
  cases related with
  | ok value between => exact second value (.intro comes) (.intro comes') between
  | error between same => exact .error between same

theorem bind
    {one other : Resolving Value}
    {next next' : Value → Resolving Result}
    (first : Agree SameFault one other)
    (second : ∀ value, Agree SameFault (next value) (next' value)) :
    Agree SameFault (one >>= next) (other >>= next') :=
  first.bind_of_comesTo fun value _ _ => second value

/-- A computation agrees with itself if its faults are like themselves. -/
theorem refl
    {one : Resolving Value}
    (reflexive :
      ∀ {prelude fault after}, one prelude = .error fault after → SameFault fault fault) :
    Agree SameFault one one := by
  intro prelude
  cases outcome : one prelude with
  | ok value after => exact .ok value after
  | error fault after => exact .error after (reflexive outcome)

/-- Recording a declaration is never refused. -/
theorem declare
    (declaration : List Char) :
    Agree SameFault (declare declaration) (declare declaration) :=
  refl nofun

theorem declareAll
    (declarations : List (List Char)) :
    Agree SameFault (declareAll declarations) (declareAll declarations) := by
  induction declarations with
  | nil => exact pure ()
  | cons declaration rest inductionHypothesis =>
      exact (declare declaration).bind fun _ => inductionHypothesis

section Parts

variable
  {one other : CppType → Resolving String}

theorem resolveAll
    {types : List CppType}
    (parts : ∀ part ∈ types, Agree SameFault (one part) (other part)) :
    Agree SameFault (resolveAll one types) (resolveAll other types) := by
  induction types with
  | nil => exact pure []
  | cons type rest inductionHypothesis =>
      have restAgree := inductionHypothesis fun part member => parts part (.tail _ member)
      exact (parts type (.head _)).bind fun _ => restAgree.bind fun _ => pure _

theorem resolveArgument
    {type : CppType}
    {index : Nat}
    (parts : ∀ part ∈ (type.argument? index).toList, Agree SameFault (one part) (other part)) :
    Agree SameFault (resolveArgument one type index) (resolveArgument other type index) := by
  rw [Resolution.resolveArgument, Resolution.resolveArgument]
  cases found : type.argument? index with
  | none => exact pure "object"
  | some argument => exact parts argument (by rw [found]; exact .head _)

theorem renderBindings
    {rule : TypeRule}
    {bindings : Bindings}
    {parameters : List String}
    (parts :
      ∀ part ∈ (parameters.filter (refersTo rule)).filterMap bindings.get?,
        Agree SameFault (one part) (other part)) :
    Agree SameFault (renderBindings one rule bindings parameters)
      (renderBindings other rule bindings parameters) := by
  induction parameters with
  | nil => exact pure []
  | cons parameter rest inductionHypothesis =>
      simp only [Resolution.renderBindings]
      cases referred : refersTo rule parameter with
      | false =>
          rw [List.filter_cons_of_neg (by simp [referred])] at parts
          cases bindings.get? parameter with
          | none => exact inductionHypothesis parts
          | some bound => exact inductionHypothesis parts
      | true =>
          rw [List.filter_cons_of_pos referred] at parts
          cases found : bindings.get? parameter with
          | none =>
              rw [List.filterMap_cons_none found] at parts
              exact inductionHypothesis parts
          | some bound =>
              rw [List.filterMap_cons_some found] at parts
              have restAgree := inductionHypothesis fun part member => parts part (.tail _ member)
              exact (parts bound (.head _)).bind fun _ => restAgree.bind fun _ => pure _

theorem applyRule
    {rule : TypeRule}
    {bindings : Bindings}
    (parts :
      ∀ part ∈ (RuleChoice.applied rule bindings).parts, Agree SameFault (one part) (other part)) :
    Agree SameFault (applyRule one rule bindings) (applyRule other rule bindings) :=
  (renderBindings parts).bind fun _ => (declareAll _).bind fun _ => pure _

theorem resolveFunction
    {function : FunctionType}
    (parts :
      ∀ part ∈ function.parameters.map CppType.parse ++ [CppType.parse function.returns],
        Agree SameFault (one part) (other part)) :
    Agree SameFault (resolveFunction one function) (resolveFunction other function) :=
  (resolveAll (List.forall_mem_append.mp parts).1).bind fun _ =>
    (parts _ (by simp)).bind fun _ => (declare _).bind fun _ => pure _

theorem byShape?
    {type : CppType}
    {shape : Builtin.Shape}
    (parts :
      ∀ found ∈ shapeParts? type shape, ∀ part ∈ found, Agree SameFault (one part) (other part)) :
    Agree SameFault (byShape? one type shape) (byShape? other type shape) := by
  cases shape with
  | text => exact pure _
  | sequence => exact (resolveArgument (parts _ rfl)).bind fun _ => pure _
  | set => exact (resolveArgument (parts _ rfl)).bind fun _ => pure _
  | mapping =>
      obtain ⟨key, value⟩ := List.forall_mem_append.mp (parts _ rfl)
      exact (resolveArgument key).bind fun _ => (resolveArgument value).bind fun _ => pure _
  | optional => exact (resolveArgument (parts _ rfl)).bind fun _ => pure _
  | tuple =>
      refine (resolveAll (parts _ rfl)).bind fun found => ?_
      cases found.isEmpty with
      | true => exact pure _
      | false => exact pure _
  | function =>
      simp only [Resolution.byShape?]
      simp only [shapeParts?] at parts
      cases split : (type.argument? 0).bind fun argument => FunctionType.split? argument.spell with
      | none => exact pure none
      | some function =>
          rw [split] at parts
          exact (resolveFunction (parts _ rfl)).bind fun _ => pure _
  | pointee => exact (resolveArgument (parts _ rfl)).bind fun _ => pure _
  | complex => exact pure _
  | union => exact (resolveAll (parts _ rfl)).bind fun _ => pure _

theorem byBuiltin?
    {type : CppType}
    (parts :
      ∀ found ∈ builtinParts? type, ∀ part ∈ found, Agree SameFault (one part) (other part)) :
    Agree SameFault (byBuiltin? one type) (byBuiltin? other type) := by
  cases type with
  | plain name => exact pure _
  | applied name arguments =>
      simp only [Resolution.byBuiltin?]
      simp only [builtinParts?] at parts
      cases isPointer : (CppType.applied name arguments).isPointer with
      | true => exact pure none
      | false =>
          rw [isPointer] at parts
          simp only [Bool.false_eq_true, ↓reduceIte] at parts ⊢
          cases shaped : Builtin.shape? name with
          | none => exact pure none
          | some shape =>
              rw [shaped] at parts
              exact byShape? parts

/-- Parts agree if those that are smaller do. -/
theorem resolveSmaller
    {context context' : ResolutionScope}
    {type part : CppType}
    (smaller :
      weight part < weight type → Agree SameFault (resolve context part) (resolve context' part))
    (endless : SameFault (.endless part.text) (.endless part.text)) :
    Agree SameFault (resolveSmaller context type part) (resolveSmaller context' type part) := by
  rw [Resolution.resolveSmaller, Resolution.resolveSmaller]
  split
  · rename_i isSmaller
    exact smaller isSmaller
  · exact throw endless

/-- A step agrees where the names, the rules and the parts it turns to agree. -/
theorem resolveBy
    {context context' : ResolutionScope}
    {type : CppType}
    (names : Agree SameFault (entityName? context type) (entityName? context' type))
    (rules :
      isEntity context.model type = false →
      Agree SameFault (byRules? one context type) (byRules? other context' type))
    (parts : ∀ part ∈ parts context.model type, Agree SameFault (one part) (other part)) :
    Agree SameFault (resolveBy one context type) (resolveBy other context' type) := by
  refine names.bind_of_comesTo fun name? isName _ => ?_
  cases name? with
  | some name => exact pure name
  | none =>
      have unnamed : isEntity context.model type = false :=
        (yields_entityName? context type _ isName).symm
      have unruled :
          Yields (byRules? one context type) fun rendered? =>
            rendered? = none → chooseRule (context.model.rulesFor type.name) type = .unmatched := by
        rw [byRules?_eq]
        exact yields_perform one type _
      rw [Resolution.parts, unnamed] at parts
      refine (rules unnamed).bind_of_comesTo fun rendered? isRendered _ => ?_
      cases rendered? with
      | some rendered => exact pure rendered
      | none =>
          simp only [Bool.false_eq_true, ↓reduceIte, unruled _ isRendered rfl] at parts
          have builtin :
              ∀ found ∈ builtinParts? type, ∀ part ∈ found,
                Agree SameFault (one part) (other part) := by
            intro found isFound
            rw [isFound] at parts
            exact parts
          refine (byBuiltin? builtin).bind_of_comesTo fun rendered? isTabled _ => ?_
          cases rendered? with
          | some rendered => exact pure rendered
          | none =>
              have untabled : builtinParts? type = none := by
                simpa using (yields_byBuiltin? one type _ isTabled).symm
              rw [untabled, Option.getD_none] at parts
              cases pointed : type.pointee? with
              | some pointee => exact parts pointee (by rw [pointed]; exact .head _)
              | none => exact pure type.text

end Parts

end Agree

/-! ## Models that answer alike -/

/-- Choices that render alike: the same one, or ambiguities whose faults are alike. -/
inductive SameChoice
    (SameFault : Fault → Fault → Prop)
    (type : CppType) :
    RuleChoice → RuleChoice → Prop where
  | unmatched : SameChoice SameFault type .unmatched .unmatched
  | applied (rule : TypeRule) (bindings : Bindings) :
      SameChoice SameFault type (.applied rule bindings) (.applied rule bindings)
  | ambiguous {candidates candidates' : List TypeRule} :
      SameFault (.ambiguous type.text (candidates.map TypeRule.describe))
        (.ambiguous type.text (candidates'.map TypeRule.describe)) →
      SameChoice SameFault type (.ambiguous candidates) (.ambiguous candidates')

/-- A choice renders like itself if its ambiguities are alike. -/
theorem SameChoice.refl
    {SameFault : Fault → Fault → Prop}
    (ambiguities :
      ∀ text candidates,
        SameFault (.ambiguous text candidates) (.ambiguous text candidates))
    (type : CppType)
    (choice : RuleChoice) :
    SameChoice SameFault type choice choice := by
  cases choice with
  | unmatched => exact .unmatched
  | applied rule bindings => exact .applied rule bindings
  | ambiguous candidates => exact .ambiguous (ambiguities _ _)

/-- Rules that are chosen alike render alike what they turn to. -/
theorem SameChoice.agree_byRules?
    {SameFault : Fault → Fault → Prop}
    {context context' : ResolutionScope}
    {type : CppType}
    (sameChoice :
      SameChoice SameFault type (chooseRule (context.model.rulesFor type.name) type)
        (chooseRule (context'.model.rulesFor type.name) type))
    {one other : CppType → Resolving String}
    (parts :
      ∀ part ∈ (chooseRule (context.model.rulesFor type.name) type).parts,
        Agree SameFault (one part) (other part)) :
    Agree SameFault (byRules? one context type) (byRules? other context' type) := by
  rw [byRules?_eq, byRules?_eq]
  generalize chooseRule (context.model.rulesFor type.name) type = choice at sameChoice parts
  generalize chooseRule (context'.model.rulesFor type.name) type = choice' at sameChoice
  cases sameChoice with
  | unmatched => exact .pure none
  | applied rule bindings => exact (Agree.applyRule parts).bind fun _ => .pure _
  | ambiguous sameFault => exact .throw sameFault

/-- Models that give the same names to types and choose rules alike. -/
structure AnswerAlike
    (SameFault : Fault → Fault → Prop)
    (model model' : BindingModel) : Prop where
  entityName? :
    ∀ scope type,
      entityName? { model, scope } type = entityName? { model := model', scope } type
  choice :
    ∀ type,
      SameChoice SameFault type (chooseRule (model.rulesFor type.name) type)
        (chooseRule (model'.rulesFor type.name) type)
  emission : ∀ reason, SameFault (.emission reason) (.emission reason)
  endless : ∀ type, SameFault (.endless type) (.endless type)

/-- A name relative to a module is always found. -/
theorem relative_ne_error
    (context : ResolutionScope)
    (name : String)
    {prelude after : List String}
    {fault : Fault} :
    (do return some (← relative context name) : Resolving (Option String)) prelude ≠
      .error fault after := by
  intro refused
  simp only [relative] at refused
  cases found : context.scope.bind (belowScope? · name) with
  | some rest =>
      rw [found] at refused
      cases refused
  | none =>
      rw [found] at refused
      cases owned : owningModule? context.model name with
      | some owner =>
          rw [owned] at refused
          cases refused
      | none =>
          rw [owned] at refused
          cases refused

theorem exists_reason_of_className?
    {context : ResolutionScope}
    {shadowKey : String}
    {prelude after : List String}
    {fault : Fault}
    (refused : className? context shadowKey prelude = .error fault after) :
    ∃ reason, fault = .emission reason := by
  simp only [className?] at refused
  cases found : context.model.class? shadowKey with
  | none =>
      rw [found] at refused
      cases refused
  | some entity =>
      cases named : entity.qualifiedName with
      | none =>
          simp only [found, named] at refused
          cases refused
          exact ⟨_, rfl⟩
      | some name =>
          simp only [found, named] at refused
          exact (relative_ne_error context name refused).elim

/-- Naming an entity faults only if it has no name. -/
theorem exists_reason_of_entityName?
    {context : ResolutionScope}
    {type : CppType}
    {prelude after : List String}
    {fault : Fault}
    (refused : entityName? context type prelude = .error fault after) :
    ∃ reason, fault = .emission reason := by
  simp only [entityName?] at refused
  cases isClass : context.model.classForType? type with
  | some entity =>
      simp only [isClass] at refused
      exact exists_reason_of_className? refused
  | none =>
      simp only [isClass] at refused
      cases type with
      | applied name arguments => cases refused
      | plain name =>
          cases found : context.model.enum? name with
          | none =>
              simp only [found] at refused
              cases refused
          | some entity =>
              cases named : entity.qualifiedName with
              | none =>
                  simp only [found, named] at refused
                  cases refused
                  exact ⟨_, rfl⟩
              | some name =>
                  simp only [found, named] at refused
                  exact (relative_ne_error context name refused).elim

namespace AnswerAlike

variable
  {SameFault : Fault → Fault → Prop}
  {model model' : BindingModel}

theorem agree_entityName?
    (alike : AnswerAlike SameFault model model')
    (scope : Option String)
    (type : CppType) :
    Agree SameFault (Resolution.entityName? { model, scope } type)
      (Resolution.entityName? { model := model', scope } type) := by
  rw [alike.entityName? scope type]
  refine .refl fun refused => ?_
  obtain ⟨reason, rfl⟩ := exists_reason_of_entityName? refused
  exact alike.emission reason

/-- Every type resolves alike in models that answer alike. -/
theorem agree_resolve
    (alike : AnswerAlike SameFault model model')
    (scope : Option String)
    (type : CppType) :
    Agree SameFault (resolve { model, scope } type) (resolve { model := model', scope } type) := by
  induction type using resolve.induct { model, scope } with
  | case1 type inductionHypothesis =>
      have parts :
          ∀ part,
            Agree SameFault (resolveSmaller { model, scope } type part)
              (resolveSmaller { model := model', scope } type part) :=
        fun part => .resolveSmaller (inductionHypothesis part) (alike.endless _)
      rw [resolve_eq, resolve_eq]
      exact .resolveBy (alike.agree_entityName? scope type)
        (fun _ => (alike.choice type).agree_byRules? fun part _ => parts part) fun part _ =>
          parts part

end AnswerAlike

end BindingStubs.Resolution
