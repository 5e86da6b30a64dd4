import BindingStubs.Extraction.Fragment
import BindingStubs.Proofs.Extraction.Walk
import BindingStubs.Proofs.Extraction.WrappedCalls

namespace BindingStubs

/-!
# Extraction does not see wrappers

The traversal visits the nodes of the unit with more wrappers in the order of their places, and
added wrappers register nothing.  So the two units declare the same fragment, or both are refused.
-/

namespace Visit

/-- A visit with its node at its place. -/
def placed
    (place : NodeId → NodeId)
    (visit : Visit) :
    Visit :=
  { visit with node := place visit.node }

end Visit

namespace Traversal

/-- The visits of nodes that are no wrappers. -/
def plainVisits
    (unit : TranslationUnit)
    (visits : List Visit) :
    List Visit :=
  visits.filter fun visit => !(unit.kind visit.node).isTransparent

end Traversal

namespace TranslationUnit

open Shape Traversal

variable {unit wrapped : TranslationUnit} {place : NodeId → NodeId} {id other : NodeId}

namespace Wrapping

/-! ## The traversal -/

theorem isTemplate_place
    (wrapping : Wrapping unit wrapped place)
    (id : NodeId) :
    isTemplate wrapped (place id) = isTemplate unit id := by
  rw [isTemplate, wrapping.kind_place, isTemplate]

/-- The namespace of the embedding layer keeps its place below the root. -/
theorem isEmbeddingNamespace_place
    (wrapping : Wrapping unit wrapped place)
    (id : NodeId) :
    isEmbeddingNamespace wrapped (place id) = isEmbeddingNamespace unit id := by
  rw [isEmbeddingNamespace, isEmbeddingNamespace, wrapping.kind_place, wrapping.spelling_place]
  by_cases isNamespace : unit.kind id = .nameSpace
  · have noExpression : (unit.kind id).isExpression = false := by rw [isNamespace]; rfl
    rw [wrapping.parent_place_of_not_isExpression noExpression, Option.map_map]
    exact congrArg (fun kind : NodeId → NodeKind =>
      unit.kind id == .nameSpace && unit.spelling id == Idiom.embeddingNamespace
        && (unit.node id).parent.map kind == some .translationUnit)
      (funext wrapping.kind_place)
  · simp only [beq_false_of_ne isNamespace, Bool.false_and]

/-- A wrapper is no template and no namespace, and its only child is visited inside the layer when
the wrapper is. -/
theorem visitsBelow_of_wrapped?
    {inner : NodeId}
    (wraps : wrapped? unit id = some inner)
    (levels : Nat)
    (inLayer : Bool) :
    visitsBelow unit (levels + 1) id inLayer =
      visitsBelow unit levels inner inLayer ++ [{ node := id, inLayer }] := by
  obtain ⟨transparent, child⟩ := wrapped?_eq_some_iff.mp wraps
  have noTemplate : isTemplate unit id = false :=
    NodeKind.answer_of_isTransparent
      (fun kind => kind == .classTemplate || kind == .functionTemplate) rfl rfl rfl transparent
  have noNamespace : (unit.kind id == .nameSpace) = false :=
    NodeKind.answer_of_isTransparent (· == .nameSpace) rfl rfl rfl transparent
  simp [visitsBelow, noTemplate, isEmbeddingNamespace, noNamespace, child]

/-- What holds of the children of a node one by one holds of their visits in a row. -/
theorem plainVisits_flatMap
    {nodes others : List NodeId}
    (carried : List.Forall₂ (Carries unit wrapped place) nodes others)
    {visitsOf wrappedVisitsOf : NodeId → List Visit}
    (each : ∀ child ∈ nodes, ∀ otherChild ∈ others,
      Carries unit wrapped place child otherChild →
      plainVisits wrapped (wrappedVisitsOf otherChild) =
        (plainVisits unit (visitsOf child)).map (Visit.placed place)) :
    plainVisits wrapped (others.flatMap wrappedVisitsOf) =
      (plainVisits unit (nodes.flatMap visitsOf)).map (Visit.placed place) := by
  induction carried with
  | nil => rfl
  | cons carries _ inductionHypothesis =>
      have first := each _ List.mem_cons_self _ List.mem_cons_self carries
      have rest := inductionHypothesis fun child member otherChild otherMember =>
        each child (List.mem_cons_of_mem _ member) otherChild (List.mem_cons_of_mem _ otherMember)
      rw [plainVisits, plainVisits] at first rest ⊢
      simp only [List.flatMap_cons, List.filter_append, List.map_append, first, rest]

/-- The nodes below a node are visited in the order of their places, with wrappers between. -/
theorem plainVisits_of_carries
    (wrapping : Wrapping unit wrapped place)
    {id other levels wrappedLevels : Nat}
    (carries : Carries unit wrapped place id other)
    (inLayer : Bool)
    (inside : id < unit.nodes.size)
    (enough : unit.nodes.size ≤ levels + id)
    (wrappedEnough : wrapped.nodes.size ≤ wrappedLevels + other) :
    plainVisits wrapped (visitsBelow wrapped wrappedLevels other inLayer) =
      (plainVisits unit (visitsBelow unit levels id inLayer)).map (Visit.placed place) := by
  induction id using wrapping.orderly.induction_on_children
    generalizing other inLayer levels wrappedLevels with
  | step id inductionHypothesis =>
      induction carries generalizing wrappedLevels with
      | here =>
          have wrappedInside := (wrapping.place_lt id).mpr inside
          obtain _ | levels := levels
          · omega
          obtain _ | wrappedLevels := wrappedLevels
          · exact absurd wrappedInside (Nat.not_lt.mpr (Nat.zero_add (place id) ▸ wrappedEnough))
          simp only [visitsBelow, wrapping.isTemplate_place, wrapping.isEmbeddingNamespace_place]
          split
          · rfl
          · generalize (inLayer || isEmbeddingNamespace unit id) = insideLayer
            have below :
                plainVisits wrapped ((wrapped.children (place id)).flatMap fun child =>
                    visitsBelow wrapped wrappedLevels child insideLayer) =
                  (plainVisits unit ((unit.children id).flatMap fun child =>
                    visitsBelow unit levels child insideLayer)).map (Visit.placed place) := by
              refine plainVisits_flatMap (wrapping.children id)
                fun child member otherChild otherMember carriesChild => ?_
              have after := wrapping.orderly.lt_child member
              have wrappedAfter := wrapping.wrappedOrderly.lt_child otherMember
              exact inductionHypothesis child member carriesChild insideLayer
                (wrapping.orderly.child_lt member) (by omega) (by omega)
            rw [plainVisits, plainVisits] at below ⊢
            rw [List.filter_append, below, List.filter_append, List.map_append]
            refine congrArg _ ?_
            cases transparent : (unit.kind id).isTransparent <;>
              simp [transparent, Visit.placed, wrapping.kind_place]
      | @wrapper inner outer _ _ transparent child _ ofInner =>
          have wraps := wrapped?_eq_some_iff.mpr ⟨transparent, child⟩
          have member := mem_children_of_wrapped? wraps
          have after := wrapping.wrappedOrderly.lt_child member
          have before := wrapping.wrappedOrderly.child_lt member
          obtain _ | wrappedLevels := wrappedLevels
          · omega
          · rw [visitsBelow_of_wrapped? wraps, plainVisits, List.filter_append, ← plainVisits,
              ofInner (by omega)]
            simp [transparent]

/-- The whole unit is visited in the order of the places. -/
theorem plainVisits_visits
    (wrapping : Wrapping unit wrapped place) :
    plainVisits wrapped (visits wrapped) =
      (plainVisits unit (visits unit)).map (Visit.placed place) := by
  have carriesRoot : Carries unit wrapped place root (place root) := .here root
  rw [wrapping.place_root] at carriesRoot
  exact wrapping.plainVisits_of_carries carriesRoot false wrapping.orderly.nonempty
    (Nat.le_add_right _ _) (Nat.le_add_right _ _)

/-! ## Registrations -/

/-- A visit at its place registers what the visit registers. -/
theorem sameEffect_registrationsAt
    (wrapping : Wrapping unit wrapped place)
    (sameDeclarations : ∀ name,
      wrapped.typeDeclaration? name = (unit.typeDeclaration? name).map place)
    (visit : Visit) :
    Alike Registration.SameEffect (Extraction.registrationsAt unit visit)
      (Extraction.registrationsAt wrapped (visit.placed place)) := by
  have rule :
      Alike Registration.SameEffect
        (if Exporter.isExporter unit visit.node then
          (Exporter.rule unit visit.node).map fun rule => [Registration.addRule rule]
        else .ok [])
        (if Exporter.isExporter unit visit.node then
          (Exporter.rule wrapped (place visit.node)).map fun rule => [Registration.addRule rule]
        else .ok []) := by
    split
    · exact ((wrapping.alike_rule visit.node).map_eq _).sameEffect
    · exact .sameEffect (.refl _)
  simp only [Extraction.registrationsAt, Visit.placed, wrapping.kind_place,
    wrapping.spelling_place, wrapping.type?_place, wrapping.isExporter_place]
  split
  · split
    · exact .sameEffect (.refl _)
    · split
      · split
        · exact wrapping.sameEffect_registrations sameDeclarations _ visit.node
        · exact .sameEffect (.refl _)
      · exact .sameEffect (.refl _)
  · exact rule
  · exact rule
  · exact rule
  · exact .sameEffect (.refl _)

end Wrapping

end TranslationUnit

namespace Extraction

open BindingModel Change Traversal TranslationUnit

variable {unit wrapped : TranslationUnit} {place : NodeId → NodeId}

/-- A visit that is registered leads to where its registrations lead, and the rest starts there. -/
theorem after?_inspect_cons_of_ok
    {visit : Visit}
    {registrations : List Registration}
    (found : registrationsAt unit visit = .ok registrations)
    (rest : List Visit)
    (model : BindingModel) :
    after? (forAll (inspect unit) (visit :: rest)) model =
      (after? (Registration.performAll registrations) model).bind fun reached =>
        after? (forAll (inspect unit) rest) reached := by
  rw [after?_forAll_cons, inspect, found]

theorem after?_inspect_cons_of_error
    {visit : Visit}
    {fault : Fault}
    (refused : registrationsAt unit visit = .error fault)
    (rest : List Visit)
    (model : BindingModel) :
    after? (forAll (inspect unit) (visit :: rest)) model = none := by
  rw [after?_forAll_cons, inspect, refused]
  rfl

/-- Wrappers register nothing. -/
theorem after?_inspect_plainVisits
    (visits : List Visit)
    (model : BindingModel) :
    after? (forAll (inspect unit) (plainVisits unit visits)) model =
      after? (forAll (inspect unit) visits) model := by
  induction visits generalizing model with
  | nil => rfl
  | cons visit rest inductionHypothesis =>
      cases transparent : (unit.kind visit.node).isTransparent with
      | true =>
          have nothing : registrationsAt unit visit = .ok [] := by
            rw [registrationsAt]
            split <;> first | rfl | (rename_i kind; rw [kind] at transparent; cases transparent)
          rw [after?_inspect_cons_of_ok nothing, plainVisits,
            List.filter_cons_of_neg (by simp [transparent]), ← plainVisits, inductionHypothesis]
          rfl
      | false =>
          rw [plainVisits, List.filter_cons_of_pos (by simp [transparent]), ← plainVisits]
          cases found : registrationsAt unit visit with
          | error fault =>
              rw [after?_inspect_cons_of_error found,
                after?_inspect_cons_of_error found]
          | ok registrations =>
              simp only [after?_inspect_cons_of_ok found, inductionHypothesis]

/-- Visits at their places lead to the same model. -/
theorem after?_inspect_placed
    (wrapping : Wrapping unit wrapped place)
    (sameDeclarations : ∀ name,
      wrapped.typeDeclaration? name = (unit.typeDeclaration? name).map place)
    (visits : List Visit)
    (model : BindingModel) :
    after? (forAll (inspect wrapped) (visits.map (Visit.placed place))) model =
      after? (forAll (inspect unit) visits) model := by
  induction visits generalizing model with
  | nil => rfl
  | cons visit rest inductionHypothesis =>
      rw [List.map_cons]
      match found : registrationsAt unit visit,
        wrappedFound : registrationsAt wrapped (visit.placed place),
        wrapping.sameEffect_registrationsAt sameDeclarations visit with
      | _, _, .error _ _ =>
          rw [after?_inspect_cons_of_error found,
            after?_inspect_cons_of_error wrappedFound]
      | _, _, .ok same =>
          rw [after?_inspect_cons_of_ok found, after?_inspect_cons_of_ok wrappedFound,
            same model]
          simp only [inductionHypothesis]

theorem extract_eq_ok_iff
    (built : unit.IsBuilt)
    (model : BindingModel) :
    extract unit = .ok model ↔
      after? (forAll (inspect unit) (visits unit)) BindingModel.empty = some model := by
  rw [extract, walk_eq_forAll_visits built, after?]
  split <;> simp_all

/-- Wrappers that are added above expressions change neither whether a unit is extracted nor the
fragment that it declares. -/
theorem extract_sees_through_wrappers
    (built : unit.IsBuilt)
    (wrappedBuilt : wrapped.IsBuilt)
    (adds : AddsWrappers unit wrapped place)
    (model : BindingModel) :
    extract unit = .ok model ↔ extract wrapped = .ok model := by
  have wrapping : Wrapping unit wrapped place :=
    { adds with orderly := built.isOrderly, wrappedOrderly := wrappedBuilt.isOrderly }
  rw [extract_eq_ok_iff built, extract_eq_ok_iff wrappedBuilt,
    ← after?_inspect_plainVisits (visits wrapped), wrapping.plainVisits_visits, after?_inspect_placed wrapping
      (wrapping.typeDeclaration?_place built.isIndexed wrappedBuilt.isIndexed),
    after?_inspect_plainVisits]

/-! ## A declared module with and without wrappers -/

namespace DeclaredModule

/-- The call that declares the module. -/
def call : NodeSpec :=
  { kind := .call, spelling := "declare_module", type := some "pyembed::ModuleDef" }

/-- The name of the module. -/
def name : NodeSpec :=
  { kind := .stringLiteral, type := some "const char[9]", value := some "geometry" }

/-- A wrapper with a type. -/
def wrapper
    (kind : NodeKind)
    (type : Option String) :
    NodeSpec :=
  { kind, type }

/-- A variable that is initialized by a call. -/
def builder : UnitBuilder :=
  UnitBuilder.start "module.cpp"
    |>.push (some 0) { kind := .variableDeclaration, spelling := "geometry_module" }
    |>.push (some 1) call
    |>.push (some 2) { kind := .declarationReference, spelling := "declare_module" }
    |>.push (some 2) name
    |>.push (some 2) { kind := .nullPointerLiteral }

/-- The same variable with a temporary around the call and two wrappers around the name. -/
def wrappedBuilder : UnitBuilder :=
  UnitBuilder.start "module.cpp"
    |>.push (some 0) { kind := .variableDeclaration, spelling := "geometry_module" }
    |>.push (some 1) (wrapper .unexposed call.type)
    |>.push (some 2) call
    |>.push (some 3) { kind := .declarationReference, spelling := "declare_module" }
    |>.push (some 3) (wrapper .implicitCast name.type)
    |>.push (some 5) (wrapper .parenthesized name.type)
    |>.push (some 6) name
    |>.push (some 3) { kind := .nullPointerLiteral }

/-- Where the nodes stand after the wrappers are added. -/
def placed (id : Nat) : Nat :=
  if id < 2 then id else if id < 4 then id + 1 else id + 3

theorem isBuilt_builder : builder.finish.IsBuilt := by
  refine ⟨builder, ?_, rfl⟩
  repeat refine .push _ _ ?_ (by rintro _ ⟨⟩; decide)
  exact .start _

theorem isBuilt_wrappedBuilder : wrappedBuilder.finish.IsBuilt := by
  refine ⟨wrappedBuilder, ?_, rfl⟩
  repeat refine .push _ _ ?_ (by rintro _ ⟨⟩; decide)
  exact .start _

theorem strictMono_placed : StrictMono placed := by
  intro first second before
  unfold placed
  split_ifs <;> omega

theorem placed_lt_iff (id : Nat) : placed id < 9 ↔ id < 6 := by
  unfold placed
  split_ifs <;> omega

/-- Beyond the last node the units have the same nodes. -/
theorem node_placed_beyond
    (id : Nat) :
    wrappedBuilder.finish.node (placed (id + 6)) = builder.finish.node (id + 6) := by
  have beyond : 9 ≤ placed (id + 6) := Nat.not_lt.mp (mt (placed_lt_iff _).mp (by omega))
  rw [node_of_size_le beyond, node_of_size_le (Nat.le_add_left 6 id)]

theorem carries_call : Carries builder.finish wrappedBuilder.finish placed 2 2 :=
  .wrapper (.here 2) rfl rfl rfl rfl

theorem carries_inner_name : Carries builder.finish wrappedBuilder.finish placed 4 6 :=
  .wrapper (.here 4) rfl rfl rfl rfl

theorem carries_name : Carries builder.finish wrappedBuilder.finish placed 4 5 :=
  .wrapper carries_inner_name rfl rfl rfl rfl

theorem addsWrappers : AddsWrappers builder.finish wrappedBuilder.finish placed where
  place_root := rfl
  strictMono := strictMono_placed
  place_lt := placed_lt_iff
  spec id := by
    match id with
    | 0 | 1 | 2 | 3 | 4 | 5 => rfl
    | id + 6 => rw [node_placed_beyond]
  referenced id := by
    match id with
    | 0 | 1 | 2 | 3 | 4 | 5 => rfl
    | id + 6 =>
        rw [referenced?, node_placed_beyond, referenced?, node_of_size_le (Nat.le_add_left 6 id)]
        rfl
  children id := by
    match id with
    | 0 => exact .cons (.here 1) .nil
    | 1 => exact .cons carries_call .nil
    | 2 => exact .cons (.here 3) (.cons carries_name (.cons (.here 5) .nil))
    | 3 | 4 | 5 => exact .nil
    | id + 6 =>
        have none : builder.finish.children (id + 6) = [] :=
          congrArg Node.children (node_of_size_le (Nat.le_add_left 6 id))
        have wrappedNone : wrappedBuilder.finish.children (placed (id + 6)) = [] :=
          (congrArg Node.children (node_placed_beyond id)).trans none
        rw [none, wrappedNone]
        exact .nil
  detached id := by
    match id with
    | 0 | 1 | 2 | 3 | 4 | 5 => decide
    | id + 6 => rw [node_placed_beyond]; exact fun orphan => orphan
  carried other inside := by
    match other with
    | 0 => exact ⟨0, .here 0⟩
    | 1 => exact ⟨1, .here 1⟩
    | 2 => exact ⟨2, carries_call⟩
    | 3 => exact ⟨2, .here 2⟩
    | 4 => exact ⟨3, .here 3⟩
    | 5 => exact ⟨4, carries_name⟩
    | 6 => exact ⟨4, carries_inner_name⟩
    | 7 => exact ⟨4, .here 4⟩
    | 8 => exact ⟨5, .here 5⟩
    | other + 9 => exact absurd inside (Nat.not_lt.mpr (Nat.le_add_left 9 other))

end DeclaredModule

theorem extract_sees_through_wrappers_of_declared_module :
    ∃ model,
      extract DeclaredModule.builder.finish = .ok model ∧
        extract DeclaredModule.wrappedBuilder.finish = .ok model ∧
        model.modules.map Module.pythonName = ["geometry"] := by
  have names :
      ((extract DeclaredModule.builder.finish).toOption.map fun model =>
        model.modules.map Module.pythonName) = some ["geometry"] := by
    decide +kernel
  cases extracted : extract DeclaredModule.builder.finish with
  | error fault => rw [extracted] at names; cases names
  | ok model =>
      rw [extracted] at names
      exact ⟨model, rfl,
        (extract_sees_through_wrappers DeclaredModule.isBuilt_builder
          DeclaredModule.isBuilt_wrappedBuilder DeclaredModule.addsWrappers model).mp extracted,
        Option.some.inj names⟩

end Extraction

end BindingStubs
