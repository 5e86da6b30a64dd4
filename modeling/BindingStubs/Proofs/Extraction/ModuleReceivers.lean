import BindingStubs.Extraction.Fragment
import BindingStubs.Proofs.Extraction.Constants

namespace BindingStubs

/-!
# Receivers lead to the module they belong to

The key of a module is computed twice: from the call that declares it, upwards to the variable that
the call initializes, and from every receiver, downwards through a chain of member calls to that
call or to a reference to that variable.  Members reach their module because both computations give
the same key, however long the chain is.
-/

namespace Receiver

open Shape TranslationUnit Relation

variable {unit : TranslationUnit}

/-! ## Expressions below wrappers -/

/-- Whether one expression stands below another and only wrappers lie between them. -/
def Wraps
    (unit : TranslationUnit) :
    NodeId → NodeId → Prop :=
  ReflTransGen fun outer inner => wrapped? unit outer = some inner

theorem Wraps.unwrap_eq
    (orderly : unit.IsOrderly)
    {outer inner : NodeId}
    (wraps : Wraps unit outer inner) :
    unwrap unit outer = unwrap unit inner := by
  induction wraps with
  | refl => rfl
  | tail _ wraps inductionHypothesis =>
      rw [inductionHypothesis, unwrap_of_wrapped? orderly wraps]

theorem Wraps.le
    (orderly : unit.IsOrderly)
    {outer inner : NodeId}
    (wraps : Wraps unit outer inner) :
    outer ≤ inner := by
  induction wraps with
  | refl => exact Nat.le_refl _
  | tail _ wraps inductionHypothesis =>
      exact inductionHypothesis.trans
        (Nat.le_of_lt (orderly.lt_child (mem_children_of_wrapped? wraps)))

/-- A node whose kind is not that of a wrapper stands for itself. -/
theorem wrapped?_eq_none_of_kind
    {id : NodeId}
    {kind : NodeKind}
    (isKind : unit.kind id = kind)
    (notTransparent : kind.isTransparent = false) :
    wrapped? unit id = none := by
  rw [wrapped?, isKind, notTransparent]
  rfl

theorem unwrap_of_kind
    {id : NodeId}
    {kind : NodeKind}
    (isKind : unit.kind id = kind)
    (notTransparent : kind.isTransparent = false) :
    unwrap unit id = id :=
  unwrap_of_wrapped?_eq_none (wrapped?_eq_none_of_kind isKind notTransparent)

/-! ## Chains of member calls -/

/-- A call whose callee is, below wrappers, a member of an object. -/
structure IsMemberCall
    (unit : TranslationUnit)
    (call object : NodeId) :
    Prop where
  isCall : unit.kind call = .call
  ofMember :
    ∃ callee member,
      unit.child? call 0 = some callee ∧ Wraps unit callee member ∧
        unit.kind member = .memberReference ∧ unit.child? member 0 = some object

namespace IsMemberCall

variable {call object : NodeId}

theorem receiver_eq
    (orderly : unit.IsOrderly)
    (isMemberCall : IsMemberCall unit call object) :
    (callParts unit call).receiver = some object := by
  obtain ⟨callee, member, isCallee, wraps, isMember, isObject⟩ := isMemberCall.ofMember
  have calleeUnwrapped : unwrap unit callee = member := by
    rw [wraps.unwrap_eq orderly, unwrap_of_kind isMember rfl]
  simp [callParts, isCallee, calleeUnwrapped, Option.filter_some, isMember, isObject]

/-- The object of a member call lies below the call. -/
theorem lt
    (orderly : unit.IsOrderly)
    (isMemberCall : IsMemberCall unit call object) :
    call < object ∧ call < unit.nodes.size := by
  obtain ⟨callee, member, isCallee, wraps, -, isObject⟩ := isMemberCall.ofMember
  have calleeBelow := List.mem_of_getElem? isCallee
  have objectBelow := List.mem_of_getElem? isObject
  have beforeMember := (orderly.lt_child calleeBelow).trans_le (wraps.le orderly)
  exact ⟨beforeMember.trans (orderly.lt_child objectBelow),
    (orderly.lt_child calleeBelow).trans (orderly.child_lt calleeBelow)⟩

end IsMemberCall

/-- A call that declares a module and gives its name as a string literal. -/
structure DeclaresModule
    (unit : TranslationUnit)
    (call : NodeId)
    (name : String) :
    Prop where
  isCall : unit.kind call = .call
  spelled : unit.spelling call = Idiom.name .declareModule
  named :
    ∃ argument rest literal,
      (callParts unit call).arguments = argument :: rest ∧ Wraps unit argument literal ∧
        unit.kind literal = .stringLiteral ∧ unit.value? literal = some name

/-- The nearest variable above a call, with no node of some kinds in between. -/
structure IsInitializedBy
    (unit : TranslationUnit)
    (fences : List NodeKind)
    (call variableNode : NodeId) :
    Prop where
  isVariable : unit.kind variableNode = .variableDeclaration
  nearest :
    ∃ between above,
      unit.ancestors call = between ++ variableNode :: above ∧
        ∀ id ∈ between, unit.kind id ∉ .variableDeclaration :: fences

/-- The receivers that lead to the module that a call declares: the call itself, references to the
variable that it initializes, and wrappers and member calls around other such receivers. -/
inductive LeadsTo
    (unit : TranslationUnit)
    (fences : List NodeKind)
    (call : NodeId) :
    NodeId → Prop where
  | declaration :
      LeadsTo unit fences call call
  | reference
      {reference variableNode : NodeId} :
      unit.kind reference = .declarationReference →
      unit.referenced? reference = some variableNode →
      IsInitializedBy unit fences call variableNode →
      LeadsTo unit fences call reference
  | wrapper
      {outer inner : NodeId} :
      wrapped? unit outer = some inner →
      LeadsTo unit fences call inner →
      LeadsTo unit fences call outer
  | member
      {outer object : NodeId} :
      IsMemberCall unit outer object →
      unit.spelling outer ≠ Idiom.name .declareModule →
      LeadsTo unit fences call object →
      LeadsTo unit fences call outer

/-! ## The key of a module -/

/-- The kinds of nodes at which the search for the variable above a call ends. -/
def scopeKinds : List NodeKind :=
  [.compoundStatement, .translationUnit]

/-- The search upwards finds the nearest variable, unless it ends before. -/
theorem IsInitializedBy.initializedVariable?_eq
    {call variableNode : NodeId}
    (initializedBy : IsInitializedBy unit scopeKinds call variableNode) :
    initializedVariable? unit call = some variableNode := by
  obtain ⟨between, above, ancestors, plain⟩ := initializedBy.nearest
  have goesOn :
      ∀ id ∈ between,
        (unit.kind id != .compoundStatement && unit.kind id != .translationUnit) = true := by
    intro id member
    have := plain id member
    simp_all [scopeKinds]
  have noVariable :
      ∀ id ∈ between, ¬ (unit.kind id == .variableDeclaration) = true := by
    intro id member
    have := plain id member
    simp_all
  rw [initializedVariable?, ancestors, List.takeWhile_append_of_pos goesOn, List.find?_append,
    List.find?_eq_none.mpr noVariable, Option.none_or]
  simp [initializedBy.isVariable]

namespace DeclaresModule

variable {call : NodeId} {name : String}

theorem exists_argument
    (orderly : unit.IsOrderly)
    (declares : DeclaresModule unit call name) :
    ∃ argument rest,
      (callParts unit call).arguments = argument :: rest ∧
        ∀ idiom, stringLiteral unit idiom argument = .ok name := by
  obtain ⟨argument, rest, literal, arguments, wraps, isLiteral, value⟩ := declares.named
  refine ⟨argument, rest, arguments, fun idiom => ?_⟩
  rw [stringLiteral, wraps.unwrap_eq orderly, unwrap_of_kind isLiteral rfl]
  simp [isLiteral, value]

theorem declareModule_eq_ok
    (orderly : unit.IsOrderly)
    (declares : DeclaresModule unit call name)
    {registrations : List Registration}
    (made : RegistrationCall.declareModule unit call = .ok registrations) :
    ∃ doc,
      registrations =
        [.declareModule (declaredModuleKey unit call name) name doc (unit.location call)] := by
  obtain ⟨argument, rest, arguments, isName⟩ := declares.exists_argument orderly
  have isFirst : RegistrationCall.argument (argument :: rest) 0 = argument := rfl
  rw [RegistrationCall.declareModule, RegistrationCall.arguments, arguments] at made
  cases counted :
      expectArguments unit (Idiom.name .declareModule) call (argument :: rest).length 2 2 with
  | error fault =>
      simp only [counted, bind, Except.bind] at made
      cases made
  | ok =>
      simp only [counted, bind, Except.bind, pure, Except.pure, isFirst, isName] at made
      split at made
      · cases made
      · exact ⟨_, (Except.ok.inj made).symm⟩

/-- Extraction declares a module under one key, and finds nothing else at its call. -/
theorem registrationsAt_eq_ok
    (orderly : unit.IsOrderly)
    (declares : DeclaresModule unit call name)
    {inLayer : Bool}
    {registrations : List Registration}
    (made : Extraction.registrationsAt unit { node := call, inLayer } = .ok registrations) :
    registrations = [] ∨
      ∃ doc,
        registrations =
          [.declareModule (declaredModuleKey unit call name) name doc (unit.location call)] := by
  have recognized : Idiom.ofSpelling? (Idiom.name .declareModule) = some .declareModule := by
    decide +kernel
  simp only [Extraction.registrationsAt, declares.isCall, declares.spelled, recognized] at made
  split at made
  · exact .inl (Except.ok.inj made).symm
  · split at made
    · rename_i isIdiom _
      obtain rfl := Option.some.inj isIdiom
      split at made
      · exact .inr (declares.declareModule_eq_ok orderly made)
      · exact .inl (Except.ok.inj made).symm
    · exact .inl (Except.ok.inj made).symm

end DeclaresModule

/-! ## Enough steps -/

/-- The expressions from a node on that are no wrappers. -/
def plainFrom
    (unit : TranslationUnit)
    (id : NodeId) :
    Finset NodeId :=
  (Finset.range unit.nodes.size).filter fun node => (wrapped? unit node).isNone ∧ id ≤ node

theorem plainFrom_subset
    {id other : NodeId}
    (le : id ≤ other) :
    plainFrom unit other ⊆ plainFrom unit id := by
  intro node member
  simp only [plainFrom, Finset.mem_filter] at member ⊢
  exact ⟨member.1, member.2.1, le.trans member.2.2⟩

theorem card_plainFrom_le
    (unit : TranslationUnit)
    (id : NodeId) :
    (plainFrom unit id).card ≤ longestChain unit := by
  rw [← card_plain]
  refine Finset.card_le_card fun node member => ?_
  simp only [plainFrom, Finset.mem_filter] at member ⊢
  exact ⟨member.1, member.2.1⟩

/-- A call that is looked through is not met again. -/
theorem card_plainFrom_lt
    {id other : NodeId}
    (inside : id < unit.nodes.size)
    (plain : wrapped? unit id = none)
    (lt : id < other) :
    (plainFrom unit other).card < (plainFrom unit id).card := by
  refine Finset.card_lt_card
    ((Finset.ssubset_iff_of_subset (plainFrom_subset lt.le)).mpr ⟨id, ?_, ?_⟩)
  · simp [plainFrom, inside, plain]
  · simp [plainFrom, lt]

/-- Along a chain a wrapper takes no step, and a member call takes one, to its object. -/
theorem LeadsTo.moduleKeyWithin_eq
    (orderly : unit.IsOrderly)
    {call : NodeId}
    {name : String}
    (declares : DeclaresModule unit call name)
    {expression : NodeId}
    (leads : LeadsTo unit scopeKinds call expression)
    (idiom : String)
    {steps : Nat}
    (enough : (plainFrom unit expression).card ≤ steps) :
    moduleKeyWithin unit idiom (steps + 1) expression =
      .ok (declaredModuleKey unit call name) := by
  induction leads generalizing steps with
  | declaration =>
      obtain ⟨argument, rest, arguments, isName⟩ := declares.exists_argument orderly
      simp [moduleKeyWithin, unwrap_of_kind declares.isCall rfl, declares.isCall,
        declares.spelled, arguments, isName, Except.map]
  | reference isReference refersTo initializedBy =>
      simp [moduleKeyWithin, unwrap_of_kind isReference rfl, isReference, refersTo,
        Option.filter_some, initializedBy.isVariable, declaredModuleKey,
        initializedBy.initializedVariable?_eq]
  | wrapper wraps _ inductionHypothesis =>
      have below := orderly.lt_child (mem_children_of_wrapped? wraps)
      rw [moduleKeyWithin, unwrap_of_wrapped? orderly wraps, ← moduleKeyWithin]
      exact inductionHypothesis
        ((Finset.card_le_card (plainFrom_subset below.le)).trans enough)
  | member isMemberCall notDeclaring _ inductionHypothesis =>
      obtain ⟨lt, inside⟩ := isMemberCall.lt orderly
      have plain := wrapped?_eq_none_of_kind isMemberCall.isCall rfl
      have fewer := card_plainFrom_lt inside plain lt
      obtain ⟨steps, rfl⟩ := Nat.exists_eq_add_one.mpr (Nat.zero_lt_of_lt (fewer.trans_le enough))
      rw [moduleKeyWithin]
      simp only [unwrap_of_kind isMemberCall.isCall rfl, isMemberCall.isCall, notDeclaring,
        if_false, isMemberCall.receiver_eq orderly]
      exact inductionHypothesis (by omega)

/-! ## Members reach their module -/

/--
Every receiver that leads to a module has the key under which extraction declares the module: the
declaring call, and references to the nearest variable above it with no compound statement and no
nested translation unit in between, inside any number of wrappers and member calls.
-/
theorem moduleKey_eq_declared_key
    (built : unit.IsBuilt)
    {call : NodeId}
    {name : String}
    (declares : DeclaresModule unit call name) :
    (∀ inLayer registrations,
      Extraction.registrationsAt unit { node := call, inLayer } = .ok registrations →
        registrations = [] ∨
          ∃ doc,
            registrations =
              [.declareModule (declaredModuleKey unit call name) name doc (unit.location call)]) ∧
      ∀ expression,
        LeadsTo unit scopeKinds call expression →
          ∀ idiom, moduleKey unit idiom expression = .ok (declaredModuleKey unit call name) := by
  have orderly := built.isOrderly
  refine ⟨fun inLayer registrations made => ?_, fun expression leads idiom => ?_⟩
  · exact declares.registrationsAt_eq_ok orderly made
  · exact leads.moduleKeyWithin_eq orderly declares idiom (card_plainFrom_le unit expression)

/-- A module that a variable holds: a class is added where the variable is initialized, and a
constant through a reference to the variable. -/
def shapesBuilder : UnitBuilder :=
  let module (kind : NodeKind) (spelling : String) : NodeSpec :=
    { kind, spelling, type := some "pyembed::ModuleDef" }
  let builder := UnitBuilder.start "shapes.cpp"
  let builder := builder.push (some 0) (module .variableDeclaration "shapes")
  let builder := builder.push (some 1) (module .unexposed "")
  let builder := builder.push (some 2) (module .call "add_class")
  let builder := builder.push (some 3) { kind := .memberReference, spelling := "add_class" }
  let builder := builder.push (some 4) (module .parenthesized "")
  let builder := builder.push (some 5) (module .call "declare_module")
  let builder := builder.push (some 6) { kind := .declarationReference }
  let builder := builder.push (some 6) { kind := .stringLiteral, value := some "geometry" }
  let builder := builder.push (some 6) { kind := .nullPointerLiteral }
  let builder := builder.push (some 0) { kind := .function, spelling := "register_more" }
  let builder := builder.push (some 10) (module .call "add_static_constant")
  let builder := builder.push (some 11) { kind := .memberReference }
  let builder := builder.push (some 12) (module .declarationReference "shapes")
  builder.setReferenced 13 1

theorem moduleKey_eq_declared_key_of_shapes :
    let shapes := shapesBuilder.finish
    (shapes.IsBuilt ∧ DeclaresModule shapes 6 "geometry" ∧
        LeadsTo shapes scopeKinds 6 2 ∧ LeadsTo shapes scopeKinds 6 11) ∧
      moduleKey shapes "add_enum" 2 = .ok "shapes" ∧
      moduleKey shapes "add_enum" 11 = .ok "shapes" ∧
      Extraction.registrationsAt shapes { node := 6, inLayer := false } =
        .ok [.declareModule "shapes" "geometry" none {}] := by
  intro shapes
  have built : shapes.IsBuilt := by
    refine ⟨shapesBuilder, .setReferenced _ _ ?_, rfl⟩
    repeat refine .push _ _ ?_ (by rintro _ ⟨⟩; decide)
    exact .start _
  have declares : DeclaresModule shapes 6 "geometry" :=
    ⟨rfl, rfl, 8, [9], 8, rfl, .refl, rfl, rfl⟩
  have initializedBy : IsInitializedBy shapes scopeKinds 6 1 :=
    ⟨rfl, [5, 4, 3, 2], [0], rfl, by decide⟩
  have chain : LeadsTo shapes scopeKinds 6 2 :=
    .wrapper rfl
      (.member ⟨rfl, 4, 4, rfl, .refl, rfl, rfl⟩ (by decide) (.wrapper rfl .declaration))
  have chainFromVariable : LeadsTo shapes scopeKinds 6 11 :=
    .member ⟨rfl, 12, 12, rfl, .refl, rfl, rfl⟩ (by decide) (.reference rfl rfl initializedBy)
  have declaredKey : declaredModuleKey shapes 6 "geometry" = "shapes" := by decide +kernel
  obtain ⟨-, leads⟩ := moduleKey_eq_declared_key built declares
  rw [declaredKey] at leads
  exact ⟨⟨built, declares, chain, chainFromVariable⟩, leads 2 chain _,
    leads 11 chainFromVariable _, by decide +kernel⟩

/-- A module whose declaring call stands in a translation unit below the variable. -/
def nestedUnitBuilder : UnitBuilder :=
  let builder := UnitBuilder.start "shapes.cpp"
  let builder := builder.push (some 0) { kind := .variableDeclaration, spelling := "shapes" }
  let builder := builder.push (some 1) { kind := .translationUnit, spelling := "inner.cpp" }
  let builder := builder.push (some 2)
    { kind := .call, spelling := "declare_module", type := some "pyembed::ModuleDef" }
  let builder := builder.push (some 3) { kind := .declarationReference }
  let builder := builder.push (some 3) { kind := .stringLiteral, value := some "geometry" }
  let builder := builder.push (some 3) { kind := .nullPointerLiteral }
  let builder := builder.push (some 0) { kind := .declarationReference, spelling := "shapes" }
  builder.setReferenced 7 1

/-- Where compound statements alone end the search for the variable above a call, a reference to
that variable need not have the key of the module. -/
theorem moduleKey_ne_declared_key_below_nested_unit :
    let nested := nestedUnitBuilder.finish
    nested.IsBuilt ∧
      DeclaresModule nested 3 "geometry" ∧
      LeadsTo nested [.compoundStatement] 3 7 ∧
      Extraction.registrationsAt nested { node := 3, inLayer := false } =
        .ok [.declareModule "module:geometry" "geometry" none {}] ∧
      moduleKey nested "add_enum" 7 ≠ .ok "module:geometry" := by
  intro nested
  have built : nested.IsBuilt := by
    refine ⟨nestedUnitBuilder, .setReferenced _ _ ?_, rfl⟩
    repeat refine .push _ _ ?_ (by rintro _ ⟨⟩; decide)
    exact .start _
  have declares : DeclaresModule nested 3 "geometry" :=
    ⟨rfl, rfl, 5, [6], 5, rfl, .refl, rfl, rfl⟩
  have initializedBy : IsInitializedBy nested [.compoundStatement] 3 1 :=
    ⟨rfl, [2], [0], rfl, by decide⟩
  exact ⟨built, declares, .reference rfl rfl initializedBy, by decide +kernel, by decide +kernel⟩

end Receiver

end BindingStubs
