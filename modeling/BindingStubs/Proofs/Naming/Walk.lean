import BindingStubs.Proofs.Naming.Filling

namespace BindingStubs.BindingModel

/-!
# The walk that assigns names

Names are assigned along containment: from the modules of this run to the classes and enums
placed in them, and on to what is placed in those classes.  The walk fills in the names of what
it reaches and nothing else, it ensures that everything below a container bears the name that
its container calls for, and it may be repeated.
-/

open Change

/-- The containers of this run, with their full name and what is placed in them: its modules,
and every class placed in a container. -/
inductive Container
    (model : BindingModel) :
    Option String → (classes enums : Placements) → Prop where
  | module
      {entity : Module} :
      entity ∈ model.modules →
      entity.imported = false →
      Container model entity.qualifiedName entity.innerClasses entity.innerEnums
  | class
      {name : Option String}
      {classes enums : Placements}
      {key : String}
      {entity : Class} :
      Container model name classes enums →
      key ∈ classes.keys →
      model.class? key = some entity →
      Container model entity.qualifiedName entity.innerClasses entity.innerEnums

/-- The slots of the modules of this run, and of everything placed in a container. -/
def ReachedSlot
    (model : BindingModel) :
    NameSlot → Prop
  | .module position =>
      ∃ entity, model.modules[position]? = some entity ∧ entity.imported = false
  | .class position =>
      ∃ name classes enums key,
        Container model name classes enums ∧
          key ∈ classes.keys ∧ model.classPositions.get? key = some position
  | .enum position =>
      ∃ name classes enums key,
        Container model name classes enums ∧
          key ∈ enums.keys ∧ model.enumPositions.get? key = some position

/-! ## Lookups while names are filled in -/

section Lookups

variable {allowed : NameSlot → Prop} {before after : BindingModel}

/-- A class keeps what is placed in it. -/
theorem filled_class_members
    {former changed : Class}
    (filled : classNaming.Filled former changed) :
    changed.innerClasses = former.innerClasses ∧ changed.innerEnums = former.innerEnums := by
  rcases filled with rfl | ⟨_, given, rfl⟩
  · exact ⟨rfl, rfl⟩
  · exact ⟨rfl, rfl⟩

/-- A module keeps its flag and what is placed in it. -/
theorem filled_module_members
    {former changed : Module}
    (filled : moduleNaming.Filled former changed) :
    changed.imported = former.imported ∧
      changed.innerClasses = former.innerClasses ∧ changed.innerEnums = former.innerEnums := by
  rcases filled with rfl | ⟨_, given, rfl⟩
  · exact ⟨rfl, rfl, rfl⟩
  · exact ⟨rfl, rfl, rfl⟩

theorem class?_eq_some_iff
    {model : BindingModel}
    {key : String}
    {entity : Class} :
    model.class? key = some entity ↔
      ∃ position,
        model.classPositions.get? key = some position ∧
          model.classes[position]? = some entity := by
  rw [class?, Option.bind_eq_some_iff]

theorem enum?_eq_some_iff
    {model : BindingModel}
    {key : String}
    {entity : Enumeration} :
    model.enum? key = some entity ↔
      ∃ position,
        model.enumPositions.get? key = some position ∧
          model.enums[position]? = some entity := by
  rw [enum?, Option.bind_eq_some_iff]

theorem FillsNames.class?_former
    (fills : FillsNames allowed before after)
    {key : String}
    {changed : Class}
    (found : after.class? key = some changed) :
    ∃ former, before.class? key = some former ∧ classNaming.Filled former changed := by
  obtain ⟨position, atKey, atPosition⟩ := class?_eq_some_iff.mp found
  rw [fills.classPositions_eq] at atKey
  obtain ⟨former, atFormer, filled⟩ := fills.classes.exists_former atPosition
  exact ⟨former, class?_eq_some_iff.mpr ⟨position, atKey, atFormer⟩, filled⟩

theorem FillsNames.class?_later
    (fills : FillsNames allowed before after)
    {key : String}
    {former : Class}
    (found : before.class? key = some former) :
    ∃ changed, after.class? key = some changed ∧ classNaming.Filled former changed := by
  obtain ⟨position, atKey, atPosition⟩ := class?_eq_some_iff.mp found
  rw [← fills.classPositions_eq] at atKey
  obtain ⟨changed, atChanged, filled⟩ := fills.classes.exists_later atPosition
  exact ⟨changed, class?_eq_some_iff.mpr ⟨position, atKey, atChanged⟩, filled⟩

/-- Filling in names does not change what is placed where. -/
theorem FillsNames.container_later
    (fills : FillsNames allowed before after)
    {name : Option String}
    {classes enums : Placements}
    (container : Container before name classes enums) :
    ∃ laterName, Container after laterName classes enums := by
  induction container with
  | module member isLocal =>
      obtain ⟨position, atPosition⟩ := List.mem_iff_getElem?.mp member
      obtain ⟨changed, atChanged, filled⟩ := fills.modules.exists_later atPosition
      obtain ⟨sameFlag, sameClasses, sameEnums⟩ := filled_module_members filled
      rw [← sameClasses, ← sameEnums]
      exact ⟨_, .module (List.mem_of_getElem? atChanged) (sameFlag.trans isLocal)⟩
  | «class» _ placed found inductionHypothesis =>
      obtain ⟨_, containerLater⟩ := inductionHypothesis
      obtain ⟨changed, foundLater, filled⟩ := fills.class?_later found
      obtain ⟨sameClasses, sameEnums⟩ := filled_class_members filled
      rw [← sameClasses, ← sameEnums]
      exact ⟨_, .class containerLater placed foundLater⟩

end Lookups

/-! ## What the walk ensures -/

/-- Everything placed in a scope is declared and bears the full name that the scope calls for,
through as many levels of containment. -/
def NamedBelow
    (model : BindingModel) :
    (levels : Nat) → NamedScope → Prop
  | 0, _ => False
  | levels + 1, named =>
      (∀ key ∈ named.enums,
        ∃ entity computed,
          model.enum? key = some entity ∧
            enumNaming.Bears (qualify named.scope) computed entity) ∧
      ∀ key ∈ named.classes,
        ∃ entity computed,
          model.class? key = some entity ∧
            classNaming.Bears (qualify named.scope) computed entity ∧
            NamedBelow model levels
              { scope := computed
                classes := entity.innerClasses.keys
                enums := entity.innerEnums.keys }

/-- The keys of a scope are those of given placements. -/
def NamedScope.Holds
    (named : NamedScope)
    (classes enums : Placements) :
    Prop :=
  named.classes = classes.keys ∧ named.enums = enums.keys

/-- Reading what is placed in an entity gives the same after its name is filled in. -/
theorem settles_readMembers
    {Entity : Type}
    {naming : Nameable Entity}
    {classes enums : Entity → Placements}
    (kept :
      ∀ {former changed},
        naming.Filled former changed →
        classes changed = classes former ∧ enums changed = enums former)
    (scope : String)
    (entity : Entity) :
    Settles naming.Filled naming.Filled
      (get >>= fun entity : Entity =>
        pure
          ({ scope
             classes := (classes entity).keys
             enums := (enums entity).keys } : NamedScope))
      (fun named later =>
        named = { scope, classes := (classes later).keys, enums := (enums later).keys })
      entity := by
  refine Settles.read naming.filling fun filled => ?_
  obtain ⟨sameClasses, sameEnums⟩ := kept filled
  rw [sameClasses, sameEnums]

section Walk

variable {allowed : NameSlot → Prop} {model : BindingModel}

theorem settles_nameEnum
    (scope : String)
    {key : String}
    (inside :
      ∀ position, model.enumPositions.get? key = some position → allowed (.enum position)) :
    Settles (FillsNames allowed) (FillsNames anySlot) (nameEnum scope key)
      (fun _ later =>
        ∃ entity computed,
          later.enum? key = some entity ∧ enumNaming.Bears (qualify scope) computed entity)
      model := by
  have filling := FillsNames.filling allowed
  refine Settles.get_bind filling (fun fills => by rw [fills.enumPositions_eq]) ?_
  cases atKey : model.enumPositions.get? key with
  | none => exact Settles.throw filling _ _ _
  | some position =>
      have onEntity :=
        enumArena.settles_changeAt (fun _ => rfl) (inside position atKey)
          (Nameable.settles_nameEntity enumNaming (qualify scope)
            (neverDeclared enumNaming.kind key scope) key) model
      have finished :
          ∀ {computed after},
            onEnum position (nameEntity enumNaming (qualify scope)
              (neverDeclared enumNaming.kind key scope) key) model = .ok computed after →
            Settles (FillsNames allowed) (FillsNames anySlot) (pure () : Registering Unit)
              (fun _ _ => True) after :=
        fun _ => Settles.pure filling fun _ => trivial
      refine (Settles.bind filling (Settles.since filling onEntity) finished).imp ?_
      rintro _ later ⟨computed, ⟨fills, entity, atPosition, bears⟩, _⟩
      rw [← fills.enumPositions_eq] at atKey
      exact ⟨entity, computed, enum?_eq_some_iff.mpr ⟨position, atKey, atPosition⟩, bears⟩

theorem settles_nameClass
    (scope : String)
    {key : String}
    (inside :
      ∀ position, model.classPositions.get? key = some position → allowed (.class position)) :
    Settles (FillsNames allowed) (FillsNames anySlot) (nameClass scope key)
      (fun named later =>
        ∃ entity,
          later.class? key = some entity ∧
            classNaming.Bears (qualify scope) named.scope entity ∧
            named.Holds entity.innerClasses entity.innerEnums)
      model := by
  have filling := FillsNames.filling allowed
  refine Settles.get_bind filling (fun fills => by rw [fills.classPositions_eq]) ?_
  cases atKey : model.classPositions.get? key with
  | none => exact Settles.throw filling _ _ _
  | some position =>
      have named := Nameable.settles_nameEntity classNaming (qualify scope)
        (neverDeclared classNaming.kind key scope) key
      have onEntity :=
        classArena.settles_changeAt (fun _ => rfl) (inside position atKey)
          (fun entity => Settles.bind classNaming.filling (named entity)
            fun {computed after} _ =>
              settles_readMembers filled_class_members computed after) model
      refine (Settles.since filling onEntity).imp ?_
      rintro _ later ⟨fills, entity, atPosition, computed, bears, rfl⟩
      rw [← fills.classPositions_eq] at atKey
      exact ⟨entity, class?_eq_some_iff.mpr ⟨position, atKey, atPosition⟩, bears, rfl, rfl⟩

end Walk

section Members

variable
  {base model : BindingModel}
  {name : Option String}
  {classes enums : Placements}

theorem Container.reachedSlot_class
    (container : Container base name classes enums)
    {key : String}
    (placed : key ∈ classes.keys)
    (since : FillsNames anySlot base model)
    {position : Nat}
    (atKey : model.classPositions.get? key = some position) :
    ReachedSlot base (.class position) := by
  rw [since.classPositions_eq] at atKey
  exact ⟨name, classes, enums, key, container, placed, atKey⟩

theorem Container.reachedSlot_enum
    (container : Container base name classes enums)
    {key : String}
    (placed : key ∈ enums.keys)
    (since : FillsNames anySlot base model)
    {position : Nat}
    (atKey : model.enumPositions.get? key = some position) :
    ReachedSlot base (.enum position) := by
  rw [since.enumPositions_eq] at atKey
  exact ⟨name, classes, enums, key, container, placed, atKey⟩

/-- The scope that naming a class of a container gives is that of a container. -/
theorem Container.exists_of_nameClass
    (container : Container base name classes enums)
    {scope key : String}
    (placed : key ∈ classes.keys)
    (since : FillsNames anySlot base model)
    {inner : NamedScope}
    {after : BindingModel}
    (success : nameClass scope key model = .ok inner after) :
    FillsNames anySlot base after ∧
      ∃ innerName innerClasses innerEnums,
        Container base innerName innerClasses innerEnums ∧
          inner.Holds innerClasses innerEnums := by
  have settles :=
    settles_nameClass scope fun position atKey =>
      container.reachedSlot_class placed since atKey
  have sinceAfter := since.trans (settles.within_of_ok success).anywhere
  obtain ⟨entity, found, _, innerHolds⟩ := settles.ensures success (.refl after)
  obtain ⟨former, formerFound, filled⟩ := sinceAfter.class?_former found
  obtain ⟨sameClasses, sameEnums⟩ := filled_class_members filled
  rw [sameClasses, sameEnums] at innerHolds
  exact ⟨sinceAfter, _, _, _, .class container placed formerFound, innerHolds⟩

theorem settles_nameEnums
    (container : Container base name classes enums)
    {named : NamedScope}
    (holds : named.Holds classes enums)
    (since : FillsNames anySlot base model) :
    Settles (FillsNames (ReachedSlot base)) (FillsNames anySlot)
      (forAll (nameEnum named.scope) named.enums)
      (fun _ later =>
        ∀ key ∈ named.enums,
          ∃ entity computed,
            later.enum? key = some entity ∧
              enumNaming.Bears (qualify named.scope) computed entity) model := by
  refine Settles.forAll (FillsNames.filling _) fun key member reached fills => ?_
  refine settles_nameEnum named.scope fun position atKey => ?_
  exact container.reachedSlot_enum (holds.2 ▸ member) (since.trans fills.anywhere) atKey

end Members

/-- Naming the members of a container names everything below it. -/
theorem settles_nameMembers
    {base : BindingModel}
    (fault : String → Fault)
    (levels : Nat)
    {named : NamedScope}
    {name : Option String}
    {classes enums : Placements}
    (container : Container base name classes enums)
    (holds : named.Holds classes enums)
    {model : BindingModel}
    (since : FillsNames anySlot base model) :
    Settles (FillsNames (ReachedSlot base)) (FillsNames anySlot)
      (nameMembers (fun scope => throw (fault scope)) levels named)
      (fun _ later => NamedBelow later levels named) model := by
  have filling := FillsNames.filling (ReachedSlot base)
  induction levels generalizing named name classes enums model with
  | zero => exact Settles.throw filling _ _ _
  | succ levels inductionHypothesis =>
      have enumsSettle := settles_nameEnums container holds since
      have classSettles :
          ∀ key ∈ named.classes,
            ∀ {reached},
              FillsNames anySlot base reached →
              Settles (FillsNames (ReachedSlot base)) (FillsNames anySlot)
                (nameClass named.scope key >>=
                  nameMembers (fun scope => throw (fault scope)) levels)
                (fun _ later =>
                  ∃ entity computed,
                    later.class? key = some entity ∧
                      classNaming.Bears (qualify named.scope) computed entity ∧
                      NamedBelow later levels
                        { scope := computed
                          classes := entity.innerClasses.keys
                          enums := entity.innerEnums.keys }) reached := by
        intro key member reached sinceBase
        have placed : key ∈ classes.keys := holds.1 ▸ member
        have first :=
          settles_nameClass named.scope fun position atKey =>
            container.reachedSlot_class placed sinceBase atKey
        have second :
            ∀ {inner after},
              nameClass named.scope key reached = .ok inner after →
              Settles (FillsNames (ReachedSlot base)) (FillsNames anySlot)
                (nameMembers (fun scope => throw (fault scope)) levels inner)
                (fun _ later => NamedBelow later levels inner) after := by
          intro inner after success
          obtain ⟨sinceAfter, _, _, _, innerContainer, innerHolds⟩ :=
            container.exists_of_nameClass placed sinceBase success
          exact inductionHypothesis innerContainer innerHolds sinceAfter
        refine (Settles.bind filling first second).imp ?_
        rintro _ later ⟨⟨scope, _, _⟩, ⟨entity, found, bears, rfl, rfl⟩, below⟩
        exact ⟨entity, scope, found, bears, below⟩
      refine (Settles.bind filling enumsSettle fun success =>
        Settles.forAll filling fun key member reached fills =>
          classSettles key member ?_).imp ?_
      · exact since.trans ((enumsSettle.within_of_ok success).trans fills).anywhere
      · rintro _ later ⟨_, enumsNamed, classesNamed⟩
        exact ⟨enumsNamed, classesNamed⟩

theorem mem_localPositions
    {model : BindingModel}
    {position : Nat} :
    position ∈ model.localPositions ↔
      ∃ entity, model.modules[position]? = some entity ∧ entity.imported = false := by
  simp [localPositions, List.mem_zipIdx_iff_getElem?, and_comm]

/-- Filling in names does not change which modules are of this run. -/
theorem FillsNames.localPositions_eq
    {allowed : NameSlot → Prop}
    {before after : BindingModel}
    (fills : FillsNames allowed before after) :
    after.localPositions = before.localPositions := by
  have fromFlags :
      ∀ model : BindingModel,
        model.localPositions =
          ((model.modules.map Module.imported).zipIdx.filter fun entry => !entry.1).map Prod.snd := by
    intro model
    simp [localPositions, List.zipIdx_map, List.filter_map, Function.comp_def]
  have sameFlags : after.modules.map Module.imported = before.modules.map Module.imported :=
    fills.modules.map_eq fun filled => (filled_module_members filled).1
  rw [fromFlags, fromFlags, sameFlags]

theorem settles_nameModule
    (package : Option String)
    (entity : Module) :
    Settles moduleNaming.Filled moduleNaming.Filled (nameModule package)
      (fun named later =>
        moduleNaming.Bears (qualifyModule package) named.scope later ∧
          named.Holds later.innerClasses later.innerEnums) entity := by
  have sameName :
      ∀ {former changed : Module},
        moduleNaming.Filled former changed → changed.cppName = former.cppName := by
    rintro former changed (rfl | ⟨_, given, rfl⟩)
    · rfl
    · rfl
  refine Settles.get_bind moduleNaming.filling (fun filled => by rw [sameName filled]) ?_
  refine (Settles.bind moduleNaming.filling (Nameable.settles_nameEntity ..)
    fun {computed after} _ =>
      settles_readMembers (fun filled => (filled_module_members filled).2) computed after).imp ?_
  rintro _ later ⟨computed, bears, rfl⟩
  exact ⟨bears, rfl, rfl⟩

/-- The module at a position bears the full name that the package calls for, and a scope is
that of its members. -/
def HasScope
    (package : Option String)
    (model : BindingModel)
    (position : Nat)
    (named : NamedScope) :
    Prop :=
  ∃ entity,
    model.modules[position]? = some entity ∧
      moduleNaming.Bears (qualifyModule package) named.scope entity ∧
      named.Holds entity.innerClasses entity.innerEnums

/-- Naming modules names each of them, and gives the scopes of just these modules. -/
theorem settles_nameModules
    (package : Option String)
    {allowed : NameSlot → Prop}
    {positions : List Nat}
    (inside : ∀ position ∈ positions, allowed (.module position))
    (model : BindingModel) :
    Settles (FillsNames allowed) (FillsNames anySlot) (nameModules package positions)
      (fun scopes later =>
        (∀ position ∈ positions, ∃ named ∈ scopes, HasScope package later position named) ∧
          ∀ named ∈ scopes, ∃ position ∈ positions, HasScope package later position named)
      model := by
  have filling := FillsNames.filling allowed
  induction positions generalizing model with
  | nil => exact Settles.pure filling fun _ => by simp
  | cons position rest inductionHypothesis =>
      have first :=
        moduleArena.settles_changeAt (fun _ => rfl)
          (inside position (List.mem_cons_self ..)) (settles_nameModule package) model
      have others :=
        inductionHypothesis fun other member => inside other (List.mem_cons_of_mem _ member)
      have finished :
          ∀ (named : NamedScope) (scopes : List NamedScope) (last : BindingModel),
            Settles (FillsNames allowed) (FillsNames anySlot)
              (pure (named :: scopes) : Registering (List NamedScope))
              (fun result _ => result = named :: scopes) last :=
        fun _ _ _ => Settles.pure filling fun _ => rfl
      refine (Settles.bind filling first fun {named after} _ =>
        Settles.bind filling (others after) fun {scopes last} _ =>
          finished named scopes last).imp ?_
      rintro _ later ⟨named, atPosition, scopes, ⟨positionsNamed, scopesNamed⟩, rfl⟩
      refine ⟨?_, ?_⟩
      · intro other member
        rcases List.mem_cons.mp member with rfl | inRest
        · exact ⟨named, List.mem_cons_self .., atPosition⟩
        · obtain ⟨inner, isScope, has⟩ := positionsNamed other inRest
          exact ⟨inner, List.mem_cons_of_mem _ isScope, has⟩
      · intro scope member
        rcases List.mem_cons.mp member with rfl | inRest
        · exact ⟨position, List.mem_cons_self .., atPosition⟩
        · obtain ⟨other, isPosition, has⟩ := scopesNamed scope inRest
          exact ⟨other, List.mem_cons_of_mem _ isPosition, has⟩

/-- Every module of this run bears its full name, and everything below it too. -/
def NamedThrough
    (package : Option String)
    (levels : Nat)
    (model : BindingModel) :
    Prop :=
  ∀ position ∈ model.localPositions,
    ∃ named, HasScope package model position named ∧ NamedBelow model levels named

theorem settles_assignNamesWithin
    (fault : String → Fault)
    (levels : Nat)
    (package : Option String)
    (model : BindingModel) :
    Settles (FillsNames (ReachedSlot model)) (FillsNames anySlot)
      (assignNamesWithin (fun scope => throw (fault scope)) levels package)
      (fun _ later => NamedThrough package levels later) model := by
  have filling := FillsNames.filling (ReachedSlot model)
  refine Settles.get_bind filling (fun fills => by rw [fills.localPositions_eq]) ?_
  have inside : ∀ position ∈ model.localPositions, ReachedSlot model (.module position) :=
    fun _ member => mem_localPositions.mp member
  have modulesSettle := settles_nameModules package inside model
  have membersSettle :
      ∀ {scopes after},
        nameModules package model.localPositions model = .ok scopes after →
        Settles (FillsNames (ReachedSlot model)) (FillsNames anySlot)
          (forAll (nameMembers (fun scope => throw (fault scope)) levels) scopes)
          (fun _ later => ∀ named ∈ scopes, NamedBelow later levels named) after := by
    intro scopes after success
    have within := modulesSettle.within_of_ok success
    refine Settles.forAll filling fun named member reached fills => ?_
    obtain ⟨position, isLocal, entity, atPosition, _, holds⟩ :=
      (modulesSettle.ensures success (.refl after)).2 named member
    obtain ⟨former, atFormer, filled⟩ := within.modules.exists_former atPosition
    obtain ⟨_, sameClasses, sameEnums⟩ := filled_module_members filled
    obtain ⟨former', atFormer', isLocal⟩ := mem_localPositions.mp isLocal
    rw [atFormer] at atFormer'
    cases atFormer'
    rw [sameClasses, sameEnums] at holds
    exact settles_nameMembers fault levels
      (.module (List.mem_of_getElem? atFormer) isLocal) holds (within.trans fills).anywhere
  refine (Settles.since filling (Settles.bind filling modulesSettle membersSettle)).imp ?_
  rintro _ later ⟨fills, scopes, ⟨positionsNamed, _⟩, below⟩ position member
  rw [fills.localPositions_eq] at member
  obtain ⟨named, isScope, has⟩ := positionsNamed position member
  exact ⟨named, has, below named isScope⟩

/-- Assigning names names everything that the modules of this run reach, and may be
repeated. -/
theorem settles_assignNames
    (package : Option String)
    (model : BindingModel) :
    Settles (FillsNames (ReachedSlot model)) (FillsNames anySlot) (assignNames package)
      (fun _ later => NamedThrough package (model.classes.length + 1) later) model :=
  Settles.get_bind (FillsNames.filling _)
    (fun fills => by rw [fills.classes.length_eq])
    (settles_assignNamesWithin .endless (model.classes.length + 1) package model)

end BindingStubs.BindingModel
