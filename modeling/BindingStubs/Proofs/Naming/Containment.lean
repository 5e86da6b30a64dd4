import BindingStubs.Proofs.Naming.QualifiedNames
import BindingStubs.Stub.Rendering
import Mathlib.Data.Finset.Card
import Mathlib.Data.Finset.Range
import Mathlib.Logic.Relation

namespace BindingStubs.BindingModel

/-!
# Containment has an end

The walk that assigns names does not mark the classes it has visited.  It ends because a class
is entered only if it has no name yet or just the name that is computed for it, and that is
longer than the name of the scope it is entered from.  So on every path there are ever fewer
classes that may still be entered, and the bound on the nesting is never met.  For the same
reason nothing lies inside itself once names are assigned, and so rendering ends too.
-/

open Change

/-- The places of the classes that may still be entered from a scope with a name of the given
length: they have no name or a longer one. -/
def enterable
    (length : Nat)
    (model : BindingModel) :
    Finset Nat :=
  (Finset.range model.classes.length).filter fun position =>
    model.classes[position]?.all fun entity =>
      entity.qualifiedName.all fun name => length < name.length

theorem mem_enterable
    {length : Nat}
    {model : BindingModel}
    {position : Nat} :
    position ∈ enterable length model ↔
      ∃ entity,
        model.classes[position]? = some entity ∧
          ∀ name, entity.qualifiedName = some name → length < name.length := by
  simp only [enterable, Finset.mem_filter, Finset.mem_range]
  constructor
  · rintro ⟨inRange, holds⟩
    rw [List.getElem?_eq_getElem inRange] at holds ⊢
    simpa [Option.all_eq_true] using holds
  · rintro ⟨entity, atPosition, holds⟩
    rw [atPosition]
    exact ⟨(List.getElem?_eq_some_iff.mp atPosition).1, by simpa [Option.all_eq_true] using holds⟩

theorem card_enterable_le
    (length : Nat)
    (model : BindingModel) :
    (enterable length model).card ≤ model.classes.length :=
  (Finset.card_filter_le ..).trans_eq (Finset.card_range _)

/-- While names are filled in, no class becomes enterable, nor from a scope with a longer
name. -/
theorem FillsNames.enterable_subset
    {allowed : NameSlot → Prop}
    {before after : BindingModel}
    (fills : FillsNames allowed before after)
    {length length' : Nat}
    (longer : length ≤ length') :
    enterable length' after ⊆ enterable length before := by
  intro position member
  obtain ⟨changed, atPosition, holds⟩ := mem_enterable.mp member
  obtain ⟨former, atFormer, filled⟩ := fills.classes.exists_former atPosition
  refine mem_enterable.mpr ⟨former, atFormer, fun name named => ?_⟩
  have same := filled.eq_of_named named
  exact Nat.lt_of_le_of_lt longer (holds name (same ▸ named))

/-- A class that bears a name is not enterable from a scope of that name. -/
theorem FillsNames.card_enterable_lt
    {allowed : NameSlot → Prop}
    {before after : BindingModel}
    (fills : FillsNames allowed before after)
    {position : Nat}
    {entity : Class}
    (atPosition : after.classes[position]? = some entity)
    {name : String}
    (named : entity.qualifiedName = some name)
    {length : Nat}
    (longer : length < name.length) :
    (enterable name.length after).card < (enterable length before).card := by
  refine Finset.card_lt_card (Finset.ssubset_iff_subset_ne.mpr
    ⟨fills.enterable_subset (Nat.le_of_lt longer), fun same => ?_⟩)
  have enteredFrom : position ∈ enterable length before := by
    obtain ⟨former, atFormer, filled⟩ := fills.classes.exists_former atPosition
    refine mem_enterable.mpr ⟨former, atFormer, fun given formerName => ?_⟩
    obtain rfl := filled.eq_of_named formerName
    rw [named] at formerName
    cases formerName
    exact longer
  rw [← same] at enteredFrom
  obtain ⟨entity', found, holds⟩ := mem_enterable.mp enteredFrom
  rw [atPosition] at found
  cases found
  exact Nat.lt_irrefl _ (holds name named)

theorem length_lt_qualify
    (scope name : String) :
    scope.length < (qualify scope name).length := by
  simp only [qualify, String.length_append]
  have dot : ".".length = 1 := rfl
  omega

/-! ## The walk ends -/

/-- A loop over actions that agree on every state it meets. -/
theorem forAll_congr
    {State Element : Type}
    {Holds : State → Prop}
    {action action' : Element → Change State Unit}
    {elements : List Element}
    (same :
      ∀ element ∈ elements, ∀ state, Holds state → action element state = action' element state)
    (keeps : ∀ element ∈ elements, Preserves Holds (action' element))
    (state : State)
    (holds : Holds state) :
    forAll action elements state = forAll action' elements state := by
  induction elements generalizing state with
  | nil => rfl
  | cons element rest inductionHypothesis =>
      have kept := keeps element (List.mem_cons_self ..) state holds
      simp only [forAll, bind, EStateM.bind, same element (List.mem_cons_self ..) state holds]
      cases outcome : action' element state with
      | error fault reached => rfl
      | ok value reached =>
          rw [left_of_ok outcome] at kept
          exact inductionHypothesis
            (fun other member => same other (List.mem_cons_of_mem _ member))
            (fun other member => keeps other (List.mem_cons_of_mem _ member)) reached kept

section Walk

variable (start : BindingModel)

theorem preserves_fills_of_settles
    {Result : Type}
    {change : Registering Result}
    {Ensures : BindingModel → Result → BindingModel → Prop}
    (settles :
      ∀ model, Settles (FillsNames anySlot) (FillsNames anySlot) change (Ensures model) model) :
    Preserves (FillsNames anySlot start) change :=
  fun model fills => fills.trans (settles model).within

/-- Wherever it starts, naming members only fills in names. -/
theorem preserves_fills_nameMembers
    (fault : String → Fault)
    (levels : Nat)
    (named : NamedScope) :
    Preserves (FillsNames anySlot start)
      (nameMembers (fun scope => throw (fault scope)) levels named) := by
  induction levels generalizing named with
  | zero => exact preserves_throw _
  | succ levels inductionHypothesis =>
      have enums :
          ∀ key, Preserves (FillsNames anySlot start) (nameEnum named.scope key) :=
        fun key => preserves_fills_of_settles start fun _ =>
          settles_nameEnum named.scope fun _ _ => trivial
      have classes :
          ∀ key, Preserves (FillsNames anySlot start) (nameClass named.scope key) :=
        fun key => preserves_fills_of_settles start fun _ =>
          settles_nameClass named.scope fun _ _ => trivial
      refine Preserves.bind (preserves_forAll fun key _ => enums key) fun _ => ?_
      exact preserves_forAll fun key _ => Preserves.bind (classes key) inductionHypothesis

end Walk

/-- From a class that was just named fewer classes may be entered. -/
theorem card_enterable_nameClass
    {scope key : String}
    {model after : BindingModel}
    {inner : NamedScope}
    (success : nameClass scope key model = .ok inner after) :
    (enterable inner.scope.length after).card < (enterable scope.length model).card := by
  have settled :
      Settles (FillsNames anySlot) (FillsNames anySlot) (nameClass scope key) _ model :=
    settles_nameClass scope fun _ _ => trivial
  have within := settled.within_of_ok success
  obtain ⟨entity, found, bears, _⟩ := settled.ensures success (.refl after)
  obtain ⟨position, _, atPosition⟩ := class?_eq_some_iff.mp found
  refine within.card_enterable_lt atPosition bears.named ?_
  rw [bears.computed_eq]
  exact length_lt_qualify ..

/-- With as many levels as there are classes to enter, what is done when the levels are
exhausted does not matter. -/
theorem nameMembers_eq_of_card_lt
    (exhausted : String → Registering Unit)
    (fault : String → Fault)
    {levels levels' : Nat}
    {named : NamedScope}
    {model : BindingModel}
    (enough : (enterable named.scope.length model).card < levels)
    (enough' : (enterable named.scope.length model).card < levels') :
    nameMembers exhausted levels named model =
      nameMembers (fun scope => throw (fault scope)) levels' named model := by
  induction levels generalizing levels' named model with
  | zero => exact absurd enough (Nat.not_lt_zero _)
  | succ levels inductionHypothesis =>
      cases levels' with
      | zero => exact absurd enough' (Nat.not_lt_zero _)
      | succ levels' =>
          have enumsFill :
              Preserves (FillsNames anySlot model) (forAll (nameEnum named.scope) named.enums) :=
            preserves_forAll fun key _ => preserves_fills_of_settles model fun _ =>
              settles_nameEnum named.scope fun _ _ => trivial
          have classesFill :
              ∀ key,
                Preserves (FillsNames anySlot model)
                  (nameClass named.scope key >>=
                    nameMembers (fun scope => throw (fault scope)) levels') :=
            fun key => Preserves.bind
              (preserves_fills_of_settles model fun _ =>
                settles_nameClass named.scope fun _ _ => trivial)
              fun inner => preserves_fills_nameMembers model fault levels' inner
          have classesAgree :
              ∀ key state,
                FillsNames anySlot model state →
                (nameClass named.scope key >>= nameMembers exhausted levels) state =
                  (nameClass named.scope key >>=
                    nameMembers (fun scope => throw (fault scope)) levels') state := by
            intro key state fills
            simp only [bind, EStateM.bind]
            cases outcome : nameClass named.scope key state with
            | error refusal reached => rfl
            | ok inner reached =>
                have fewer := card_enterable_nameClass outcome
                have noMore := Finset.card_le_card
                  (fills.enterable_subset (Nat.le_refl named.scope.length))
                exact inductionHypothesis (by omega) (by omega)
          have afterEnums := enumsFill model (.refl model)
          simp only [nameMembers, bind, EStateM.bind]
          cases outcome : forAll (nameEnum named.scope) named.enums model with
          | error refusal reached => rfl
          | ok value reached =>
              rw [left_of_ok outcome] at afterEnums
              exact forAll_congr (fun key _ => classesAgree key) (fun key _ => classesFill key)
                reached afterEnums

/-- The walk ends by itself: any bound on the nesting above the number of classes is as good as
any other, whatever is done where it does not suffice. -/
theorem assignNamesWithin_eq_assignNames
    (exhausted : String → Registering Unit)
    {levels : Nat}
    (package : Option String)
    {model : BindingModel}
    (enough : model.classes.length < levels) :
    assignNamesWithin exhausted levels package model = assignNames package model := by
  have modulesFill :
      Preserves (FillsNames anySlot model) (nameModules package model.localPositions) :=
    preserves_fills_of_settles model fun _ =>
      settles_nameModules package (fun _ _ => trivial) _
  have afterModules := modulesFill model (.refl model)
  simp only [assignNames, assignNamesWithin, Change.get_bind]
  simp only [bind, EStateM.bind]
  cases outcome : nameModules package model.localPositions model with
  | error refusal reached => rfl
  | ok scopes reached =>
      rw [left_of_ok outcome] at afterModules
      refine forAll_congr ?_ ?_ reached afterModules
      · intro named _ state fills
        have bounded := card_enterable_le named.scope.length state
        rw [fills.classes.length_eq] at bounded
        exact nameMembers_eq_of_card_lt exhausted .endless (by omega) (by omega)
      · intro named _
        exact preserves_fills_nameMembers model .endless _ named

/-! ## Nothing lies inside itself -/

/-- A class that another is placed in. -/
def Encloses
    (model : BindingModel)
    (outer inner : String) :
    Prop :=
  ∃ entity, model.class? outer = some entity ∧ inner ∈ entity.innerClasses.keys

/-- A class that a module of this run reaches. -/
def Reaches
    (model : BindingModel)
    (key : String) :
    Prop :=
  ∃ name classes enums, Container model name classes enums ∧ key ∈ classes.keys

theorem Reaches.step
    {model : BindingModel}
    {outer inner : String}
    (reaches : Reaches model outer)
    (encloses : Encloses model outer inner) :
    Reaches model inner := by
  obtain ⟨name, classes, enums, container, placed⟩ := reaches
  obtain ⟨entity, found, inside⟩ := encloses
  exact ⟨_, _, _, .class container placed found, inside⟩

theorem FillsNames.encloses_later
    {allowed : NameSlot → Prop}
    {before after : BindingModel}
    (fills : FillsNames allowed before after)
    {outer inner : String}
    (encloses : Encloses before outer inner) :
    Encloses after outer inner := by
  obtain ⟨former, found, inside⟩ := encloses
  obtain ⟨changed, foundLater, filled⟩ := fills.class?_later found
  exact ⟨changed, foundLater, (filled_class_members filled).1 ▸ inside⟩

theorem FillsNames.reaches_later
    {allowed : NameSlot → Prop}
    {before after : BindingModel}
    (fills : FillsNames allowed before after)
    {key : String}
    (reaches : Reaches before key) :
    Reaches after key := by
  obtain ⟨name, classes, enums, container, placed⟩ := reaches
  obtain ⟨laterName, containerLater⟩ := fills.container_later container
  exact ⟨laterName, classes, enums, containerLater, placed⟩

section Named

variable
  {package : Option String}
  {levels : Nat}
  {model : BindingModel}
  (through : NamedThrough package levels model)

include through in
/-- What is placed in a class has a longer name than the class. -/
theorem NamedThrough.name_lt
    {outer inner : String}
    (reaches : Reaches model outer)
    (encloses : Encloses model outer inner) :
    ∃ outerEntity innerEntity outerName innerName,
      model.class? outer = some outerEntity ∧
        outerEntity.qualifiedName = some outerName ∧
        model.class? inner = some innerEntity ∧
        innerEntity.qualifiedName = some innerName ∧
        outerName.length < innerName.length := by
  obtain ⟨name, classes, enums, container, placed⟩ := reaches
  obtain ⟨outerEntity, found, inside⟩ := encloses
  obtain ⟨scope, named, classesNamed, _⟩ := through.members (.class container placed found)
  obtain ⟨innerEntity, innerFound, innerNamed⟩ := classesNamed inner inside
  exact ⟨outerEntity, innerEntity, scope, _, found, named, innerFound, innerNamed,
    length_lt_qualify scope innerEntity.pythonName⟩

include through in
/-- Along containment names get longer. -/
theorem NamedThrough.name_lt_of_transGen
    {outer inner : String}
    (reaches : Reaches model outer)
    (encloses : Relation.TransGen (Encloses model) outer inner) :
    Reaches model inner ∧
      ∃ outerEntity innerEntity outerName innerName,
        model.class? outer = some outerEntity ∧
          outerEntity.qualifiedName = some outerName ∧
          model.class? inner = some innerEntity ∧
          innerEntity.qualifiedName = some innerName ∧
          outerName.length < innerName.length := by
  induction encloses with
  | single step => exact ⟨reaches.step step, through.name_lt reaches step⟩
  | tail _ step inductionHypothesis =>
      obtain ⟨reachesMiddle, outerEntity, middleEntity, outerName, middleName, outerFound,
        outerNamed, middleFound, middleNamed, shorter⟩ := inductionHypothesis
      obtain ⟨middleEntity', innerEntity, middleName', innerName, middleFound', middleNamed',
        innerFound, innerNamed, longer⟩ := through.name_lt reachesMiddle step
      rw [middleFound] at middleFound'
      cases middleFound'
      rw [middleNamed] at middleNamed'
      cases middleNamed'
      exact ⟨reachesMiddle.step step, outerEntity, innerEntity, outerName, innerName,
        outerFound, outerNamed, innerFound, innerNamed, shorter.trans longer⟩

include through in
/-- Once names are assigned, no class that a module of this run reaches lies inside itself. -/
theorem NamedThrough.acyclic
    {key : String}
    (reaches : Reaches model key) :
    ¬ Relation.TransGen (Encloses model) key key := by
  intro cycle
  obtain ⟨_, outerEntity, innerEntity, outerName, innerName, outerFound, outerNamed, innerFound,
    innerNamed, longer⟩ := through.name_lt_of_transGen reaches cycle
  rw [outerFound] at innerFound
  cases innerFound
  rw [outerNamed] at innerNamed
  cases innerNamed
  exact Nat.lt_irrefl _ longer

end Named

/-! ## Rendering ends -/

section Rendering

open Rendering

theorem renderEach_congr
    {Element : Type}
    {render render' : Element → Resolving (List StubLine)}
    {elements : List Element}
    (same : ∀ element ∈ elements, render element = render' element) :
    renderEach render elements = renderEach render' elements := by
  induction elements with
  | nil => rfl
  | cons element rest inductionHypothesis =>
      rw [renderEach, renderEach, same element (List.mem_cons_self ..),
        inductionHypothesis fun other member => same other (List.mem_cons_of_mem _ member)]

theorem renderParts_congr
    {Element : Type}
    {render render' : Element → Resolving (List StubLine)}
    {elements : List Element}
    (same : ∀ element ∈ elements, render element = render' element) :
    renderParts render elements = renderParts render' elements := by
  induction elements with
  | nil => rfl
  | cons element rest inductionHypothesis =>
      rw [renderParts, renderParts, same element (List.mem_cons_self ..),
        inductionHypothesis fun other member => same other (List.mem_cons_of_mem _ member)]

variable
  {package : Option String}
  {bound : Nat}
  {context : ResolutionScope}
  (through : NamedThrough package bound context.model)

include through in
/-- What is placed in a container can enter fewer classes than the container. -/
theorem NamedThrough.card_enterable_lt
    {classes enums : Placements}
    {scope : String}
    (container : Container context.model (some scope) classes enums)
    {key : String}
    (placed : key ∈ classes.keys) :
    ∃ entity name,
      context.model.class? key = some entity ∧
        entity.qualifiedName = some name ∧
        (enterable name.length context.model).card <
          (enterable scope.length context.model).card := by
  obtain ⟨_, ⟨⟩, classesNamed, _⟩ := through.members container
  obtain ⟨entity, found, named⟩ := classesNamed key placed
  obtain ⟨position, _, atPosition⟩ := class?_eq_some_iff.mp found
  have unchanged : FillsNames anySlot context.model context.model := .refl _
  exact ⟨entity, _, found, named,
    unchanged.card_enterable_lt atPosition named (length_lt_qualify scope entity.pythonName)⟩

include through in
/-- Rendering what is placed in a container takes no more levels than there are classes that may
be entered from it. -/
theorem renderClass_eq_of_card_le
    (exhausted exhausted' : String → Resolving (List StubLine))
    {classes enums : Placements}
    {scope : String}
    (container : Container context.model (some scope) classes enums)
    {levels levels' : Nat}
    (enough : (enterable scope.length context.model).card ≤ levels)
    (enough' : (enterable scope.length context.model).card ≤ levels')
    (depth : Nat)
    {key : String}
    (placed : key ∈ classes.keys) :
    renderClass context exhausted levels depth key =
      renderClass context exhausted' levels' depth key := by
  induction levels generalizing levels' classes enums scope depth key with
  | zero =>
      obtain ⟨_, _, _, _, fewer⟩ := through.card_enterable_lt container placed
      omega
  | succ levels inductionHypothesis =>
      obtain ⟨entity, name, found, named, fewer⟩ := through.card_enterable_lt container placed
      cases levels' with
      | zero => omega
      | succ levels' =>
          have inside :
              Container context.model (some name) entity.innerClasses entity.innerEnums :=
            named ▸ .class container placed found
          have members :
              ∀ inner ∈ entity.innerClasses.keys,
                renderClass context exhausted levels (depth + 1) inner =
                  renderClass context exhausted' levels' (depth + 1) inner :=
            fun inner member =>
              inductionHypothesis inside (by omega) (by omega) (depth + 1) member
          rw [renderClass, renderClass, found]
          cases declared : (some entity).filter fun entity => entity.declaredAt.isSome with
          | none => rfl
          | some entity' =>
              obtain ⟨rfl, _⟩ : entity = entity' ∧ entity'.declaredAt.isSome := by
                simpa using declared
              simp only [renderEach_congr members]

end Rendering

/-- Rendering a module of this run ends by itself once names are assigned. -/
theorem NamedThrough.renderModuleWithin_eq
    {package : Option String}
    {bound : Nat}
    {model : BindingModel}
    (through : NamedThrough package bound model)
    (exhausted : String → Resolving (List StubLine))
    {levels : Nat}
    {entity : Module}
    (member : entity ∈ model.modules)
    (isLocal : entity.imported = false)
    (enough : model.classes.length < levels) :
    Rendering.renderModuleWithin exhausted levels model entity =
      Rendering.renderModule model entity := by
  have container := Container.module member isLocal
  obtain ⟨scope, named, _⟩ := through.members container
  rw [named] at container
  have bounded := card_enterable_le scope.length model
  have enoughLevels : (enterable scope.length model).card ≤ levels := by omega
  have enoughClasses : (enterable scope.length model).card ≤ model.classes.length + 1 := by omega
  have members :
      ∀ key ∈ entity.innerClasses.keys,
        Rendering.renderClass { model, scope := some scope } exhausted levels 0 key =
          Rendering.renderClass { model, scope := some scope } (fun key => throw (.endless key))
            (model.classes.length + 1) 0 key :=
    fun key placed =>
      renderClass_eq_of_card_le through exhausted _ container enoughLevels enoughClasses 0 placed
  simp only [Rendering.renderModule, Rendering.renderModuleWithin, named, Rendering.renderBody,
    renderParts_congr members]

/-- Assigning names ends on every model, for the bound on its nesting is never met.  It is
refused where a module of this run reaches a class that lies inside itself.  Where it is not
refused no such class is left, and rendering the modules of this run ends as well. -/
theorem assignNames_ends_and_excludes_cycles
    (model : BindingModel)
    (package : Option String) :
    (∀ exhausted levels,
      model.classes.length < levels →
      assignNamesWithin exhausted levels package model = assignNames package model) ∧
    ((∃ key, Reaches model key ∧ Relation.TransGen (Encloses model) key key) →
      ∃ fault reached, assignNames package model = .error fault reached) ∧
    ∀ named,
      assignNames package model = .ok () named →
      (∀ key, Reaches named key → ¬ Relation.TransGen (Encloses named) key key) ∧
        ∀ entity ∈ named.modules,
          entity.imported = false →
          ∀ exhausted levels,
            named.classes.length < levels →
            Rendering.renderModuleWithin exhausted levels named entity =
              Rendering.renderModule named entity := by
  have settled := settles_assignNames package model
  have named_of_ok :
      ∀ {named},
        assignNames package model = .ok () named →
        FillsNames (ReachedSlot model) model named ∧
          NamedThrough package (model.classes.length + 1) named := by
    intro named success
    have within := settled.within
    rw [left_of_ok success] at within
    exact ⟨within, settled.ensures success (.refl named)⟩
  refine ⟨fun exhausted levels => assignNamesWithin_eq_assignNames exhausted package, ?_, ?_⟩
  · rintro ⟨key, reaches, cycle⟩
    cases outcome : assignNames package model with
    | error fault reached => exact ⟨fault, reached, rfl⟩
    | ok value named =>
        obtain ⟨fills, through⟩ := named_of_ok outcome
        have cycleLater : Relation.TransGen (Encloses named) key key :=
          Relation.TransGen.mono (fun _ _ => fills.encloses_later) _ _ cycle
        exact absurd cycleLater (through.acyclic (fills.reaches_later reaches))
  · intro named success
    obtain ⟨_, through⟩ := named_of_ok success
    exact ⟨fun key => through.acyclic, fun entity member isLocal exhausted levels =>
      through.renderModuleWithin_eq exhausted member isLocal⟩

/-- A module that holds a class which is placed in itself. -/
def selfContained : BindingModel :=
  reindex
    { modules :=
        [{ cppName := "shapes"
           pythonName := "shapes"
           declaredAt := some ⟨"shapes.cpp", 1, 1⟩
           innerClasses := ⟨[("Knot", ⟨"shapes.cpp", 2, 1⟩)]⟩ }]
      classes :=
        [{ shadowKey := "Knot"
           cppType := .plain "Knot"
           pythonName := "Knot"
           declaredAt := some ⟨"shapes.cpp", 3, 1⟩
           innerClasses := ⟨[("Knot", ⟨"shapes.cpp", 4, 1⟩)]⟩ }] }

/-- A class that is placed in itself is refused, however many levels are allowed. -/
theorem assignNames_excludes_self_containment :
    (Reaches selfContained "Knot" ∧ Relation.TransGen (Encloses selfContained) "Knot" "Knot") ∧
      (∃ fault reached, assignNames none selfContained = .error fault reached) ∧
      ∀ exhausted,
        assignNamesWithin exhausted 2 none selfContained = assignNames none selfContained := by
  have reaches : Reaches selfContained "Knot" :=
    ⟨_, _, _, .module (List.mem_singleton.mpr rfl) rfl, by decide⟩
  have encloses : Encloses selfContained "Knot" "Knot" := ⟨_, rfl, by decide⟩
  obtain ⟨ends, refused, _⟩ := assignNames_ends_and_excludes_cycles selfContained none
  exact ⟨⟨reaches, .single encloses⟩, refused ⟨"Knot", reaches, .single encloses⟩,
    fun exhausted => ends exhausted 2 (by decide)⟩

end BindingStubs.BindingModel
