import BindingStubs.Proofs.Model.Lookup
import BindingStubs.Proofs.Naming.Walk

namespace BindingStubs.BindingModel

/-!
# The names that are assigned

When names are assigned, every module of this run is named after the package and everything
placed in a container is named after the container; nothing else about the model changes.
Assigning names again to what an earlier attempt left behind comes to the same outcome, also
when that attempt was refused halfway.
-/

open Change

/-- The model with every full name taken away. -/
def withoutNames
    (model : BindingModel) :
    BindingModel :=
  { model with
    modules := model.modules.map (moduleNaming.rename · none)
    classes := model.classes.map (classNaming.rename · none)
    enums := model.enums.map (enumNaming.rename · none) }

/-- A model that differs from an earlier one in names alone: what the modules of this run reach
is named after its container, and everything else bears the name it had. -/
structure AssignsNames
    (package : Option String)
    (before after : BindingModel) : Prop where
  localModules :
    ∀ entity ∈ after.modules,
      entity.imported = false →
      entity.qualifiedName = some (qualifyModule package entity.pythonName)
  members :
    ∀ {name : Option String} {classes enums : Placements},
      Container after name classes enums →
      ∃ scope,
        name = some scope ∧
          (∀ key ∈ classes.keys,
            ∃ entity,
              after.class? key = some entity ∧
                entity.qualifiedName = some (scope ++ "." ++ entity.pythonName)) ∧
          ∀ key ∈ enums.keys,
            ∃ entity,
              after.enum? key = some entity ∧
                entity.qualifiedName = some (scope ++ "." ++ entity.pythonName)
  importedModules :
    ∀ {position : Nat} {entity : Module},
      before.modules[position]? = some entity →
      entity.imported = true →
      after.modules[position]? = some entity
  otherClasses :
    ∀ {position : Nat} {entity : Class},
      before.classes[position]? = some entity →
      (∀ {name classes enums},
        Container before name classes enums → entity.shadowKey ∉ classes.keys) →
      after.classes[position]? = some entity
  otherEnums :
    ∀ {position : Nat} {entity : Enumeration},
      before.enums[position]? = some entity →
      (∀ {name classes enums},
        Container before name classes enums → entity.cppName ∉ enums.keys) →
      after.enums[position]? = some entity
  otherFields : after.withoutNames = before.withoutNames

/-- Every container of a named model has a full name, and what is below it is named. -/
theorem NamedThrough.container
    {package : Option String}
    {levels : Nat}
    {model : BindingModel}
    (through : NamedThrough package levels model)
    {name : Option String}
    {classes enums : Placements}
    (container : Container model name classes enums) :
    ∃ scope remaining,
      name = some scope ∧
        NamedBelow model remaining { scope, classes := classes.keys, enums := enums.keys } := by
  induction container with
  | @module entity member isLocal =>
      obtain ⟨position, atPosition⟩ := List.mem_iff_getElem?.mp member
      obtain ⟨⟨scope, _, _⟩, ⟨entity', found, bears, rfl, rfl⟩, below⟩ :=
        through position (mem_localPositions.mpr ⟨entity, atPosition, isLocal⟩)
      rw [atPosition] at found
      cases found
      exact ⟨scope, levels, bears.named, below⟩
  | @«class» _ _ _ key entity _ placed found inductionHypothesis =>
      obtain ⟨scope, remaining, _, below⟩ := inductionHypothesis
      cases remaining with
      | zero => exact below.elim
      | succ remaining =>
          obtain ⟨entity', computed, found', bears, belowClass⟩ := below.2 key placed
          rw [found] at found'
          cases found'
          exact ⟨computed, remaining, bears.named, belowClass⟩

/-- In a named model everything placed in a container bears the name that the container calls
for. -/
theorem NamedThrough.members
    {package : Option String}
    {levels : Nat}
    {model : BindingModel}
    (through : NamedThrough package levels model)
    {name : Option String}
    {classes enums : Placements}
    (container : Container model name classes enums) :
    ∃ scope,
      name = some scope ∧
        (∀ key ∈ classes.keys,
          ∃ entity,
            model.class? key = some entity ∧
              entity.qualifiedName = some (scope ++ "." ++ entity.pythonName)) ∧
        ∀ key ∈ enums.keys,
          ∃ entity,
            model.enum? key = some entity ∧
              entity.qualifiedName = some (scope ++ "." ++ entity.pythonName) := by
  obtain ⟨scope, remaining, named, below⟩ := through.container container
  cases remaining with
  | zero => exact below.elim
  | succ remaining =>
      obtain ⟨enumsNamed, classesNamed⟩ := below
      refine ⟨scope, named, fun key placed => ?_, fun key placed => ?_⟩
      · obtain ⟨entity, computed, found, bears, _⟩ := classesNamed key placed
        exact ⟨entity, found, bears.named.trans (congrArg some bears.computed_eq)⟩
      · obtain ⟨entity, computed, found, bears⟩ := enumsNamed key placed
        exact ⟨entity, found, bears.named.trans (congrArg some bears.computed_eq)⟩

/-- In a named model the modules of this run are named after the package. -/
theorem NamedThrough.qualifiedName_of_local
    {package : Option String}
    {levels : Nat}
    {model : BindingModel}
    (through : NamedThrough package levels model)
    {entity : Module}
    (member : entity ∈ model.modules)
    (isLocal : entity.imported = false) :
    entity.qualifiedName = some (qualifyModule package entity.pythonName) := by
  obtain ⟨position, atPosition⟩ := List.mem_iff_getElem?.mp member
  obtain ⟨_, ⟨entity', found, bears, _⟩, _⟩ :=
    through position (mem_localPositions.mpr ⟨entity, atPosition, isLocal⟩)
  rw [atPosition] at found
  cases found
  exact bears.named.trans (congrArg some bears.computed_eq)

/-- Filling in names changes no other field. -/
theorem FillsNames.withoutNames_eq
    {allowed : NameSlot → Prop}
    {before after : BindingModel}
    (fills : FillsNames allowed before after) :
    after.withoutNames = before.withoutNames := by
  have sameModules :
      after.modules.map (moduleNaming.rename · none) =
        before.modules.map (moduleNaming.rename · none) :=
    fills.modules.map_eq fun filled => filled.rename none
  have sameClasses :
      after.classes.map (classNaming.rename · none) =
        before.classes.map (classNaming.rename · none) :=
    fills.classes.map_eq fun filled => filled.rename none
  have sameEnums :
      after.enums.map (enumNaming.rename · none) = before.enums.map (enumNaming.rename · none) :=
    fills.enums.map_eq fun filled => filled.rename none
  rw [withoutNames, sameModules, sameClasses, sameEnums]
  exact congrArg
    (fun rest : BindingModel =>
      { rest with
        modules := before.modules.map (moduleNaming.rename · none)
        classes := before.classes.map (classNaming.rename · none)
        enums := before.enums.map (enumNaming.rename · none) })
    fills.others

/-- Assigning names keeps imported modules, and classes and enums that no container holds. -/
theorem assignsNames_of_settled
    {package : Option String}
    {levels : Nat}
    {before after : BindingModel}
    (indexed : before.Indexed)
    (within : FillsNames (ReachedSlot before) before after)
    (through : NamedThrough package levels after) :
    AssignsNames package before after where
  localModules _ member isLocal := through.qualifiedName_of_local member isLocal
  members := through.members
  importedModules {position entity} found isImported := by
    refine within.modules.kept found ?_
    rintro ⟨entity', found', isLocal⟩
    rw [found] at found'
    cases found'
    simp [isImported] at isLocal
  otherClasses {position entity} found unplaced := by
    refine within.classes.kept found ?_
    rintro ⟨name, classes, enums, key, container, placed, atKey⟩
    rw [indexed.classes.leads, List.getElem?_map, found] at atKey
    cases atKey
    exact unplaced container placed
  otherEnums {position entity} found unplaced := by
    refine within.enums.kept found ?_
    rintro ⟨name, classes, enums, key, container, placed, atKey⟩
    rw [indexed.enums.leads, List.getElem?_map, found] at atKey
    cases atKey
    exact unplaced container placed
  otherFields := within.withoutNames_eq

/-- Assigned names are those that the containers call for, and nothing else changes.  Whether
or not the assignment is refused, doing it again on what it left comes to the same outcome. -/
theorem assignNames_qualifies_and_repeats
    {model : BindingModel}
    (indexed : model.Indexed)
    (package : Option String) :
    (∀ named, assignNames package model = .ok () named → AssignsNames package model named) ∧
      assignNames package (left (assignNames package) model) = assignNames package model := by
  have settled := settles_assignNames package model
  constructor
  · intro named success
    have within := settled.within
    rw [left_of_ok success] at within
    exact assignsNames_of_settled indexed within (settled.ensures success (.refl named))
  · rw [settled.repeats (.refl _), outcomeIn_left]

/-- A module that holds a class, which in turn holds another. -/
def nestedClasses : BindingModel :=
  reindex
    { modules :=
        [{ cppName := "geometry"
           pythonName := "geometry"
           declaredAt := some ⟨"geometry.cpp", 1, 1⟩
           innerClasses := ⟨[("Shape", ⟨"geometry.cpp", 2, 1⟩)]⟩ }]
      classes :=
        [{ shadowKey := "Shape"
           cppType := .plain "Shape"
           pythonName := "Shape"
           declaredAt := some ⟨"geometry.cpp", 3, 1⟩
           innerClasses := ⟨[("Side", ⟨"geometry.cpp", 4, 1⟩)]⟩ },
         { shadowKey := "Side"
           cppType := .plain "Side"
           pythonName := "Side"
           declaredAt := some ⟨"geometry.cpp", 5, 1⟩ }] }

/-- Nested classes are named level by level, and once only. -/
theorem assignNames_qualifies_and_repeats_for_nested_classes :
    nestedClasses.Indexed ∧
      ∃ named,
        assignNames (some "library") nestedClasses = .ok () named ∧
          named.classes.map Class.qualifiedName =
            [some "library.geometry.Shape", some "library.geometry.Shape.Side"] ∧
          AssignsNames (some "library") nestedClasses named ∧
          assignNames (some "library") named = .ok () named := by
  have indexed : nestedClasses.Indexed :=
    indexed_reindex (by decide) (by decide) (by decide) (by decide)
  have names :
      (after? (assignNames (some "library")) nestedClasses).map
          (fun named => named.classes.map Class.qualifiedName) =
        some [some "library.geometry.Shape", some "library.geometry.Shape.Side"] := by
    decide
  obtain ⟨named, reached, classNames⟩ := Option.map_eq_some_iff.mp names
  have success := after?_eq_some_iff.mp reached
  obtain ⟨qualifies, repeats⟩ := assignNames_qualifies_and_repeats indexed (some "library")
  rw [left_of_ok success, success] at repeats
  exact ⟨indexed, named, success, classNames, qualifies named success, repeats⟩

end BindingStubs.BindingModel
