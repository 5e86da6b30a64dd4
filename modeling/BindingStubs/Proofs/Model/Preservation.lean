import BindingStubs.Model.Merge
import BindingStubs.Proofs.Model.Change

namespace BindingStubs

/-!
# What registrations and merges preserve

Registrations are made of a few changes: an entity is entered, an entity that has been entered is
edited, or a rule is added.  A merge makes the same edits to each entity, after it has taken over
what the entity says about itself.  A property that each of these changes keeps, also when it is
refused halfway, is kept by every registration and by every merge.
-/

open BindingModel Change

/-- A declaration keeps what recording it keeps, since it changes nothing when it is refused. -/
theorem BindingModel.preserves_declare
    {Entity : Type}
    {Holds : Entity → Prop}
    (kind key : String)
    (declaredAt : Entity → Option Location)
    (location : Location)
    {update : Entity → Entity}
    (keeps : ∀ entity, Holds entity → Holds (update entity)) :
    Preserves Holds (do
      requireUndeclared kind key (declaredAt (← get)) location
      modify update) :=
  preserves_get_bind fun _ =>
    (preserves_requireUndeclared _ _ _ _).bind fun _ => preserves_modify keeps

/-! ## Modules -/

namespace Module

/-- The changes that registrations make to one module. -/
inductive IsEdit : Change Module Unit → Prop where
  | declare (cppName pythonName : String) (doc : Option String) (location : Location) :
      IsEdit do
        requireUndeclared "module" cppName (← get).declaredAt location
        modify fun entity => { entity with pythonName, doc, declaredAt := some location }
  | addFunction (name : String) (function : Callable) : IsEdit (addFunction name function)
  | addConstant (constant : Constant) : IsEdit (addConstant constant)
  | addClass (key : String) (location : Location) : IsEdit (addClass key location)
  | addEnum (key : String) (location : Location) : IsEdit (addEnum key location)

/-- Absorbing another description keeps what its declaration, its flag, its overloads and edits
keep. -/
theorem preserves_absorb
    {Holds : Module → Prop}
    (incoming : Module)
    (declared :
      ∀ entity location,
        Holds entity →
        Holds
          { entity with
            pythonName := incoming.pythonName
            doc := incoming.doc
            declaredAt := some location
            qualifiedName := incoming.qualifiedName })
    (flagged : ∀ entity imported, Holds entity → Holds { entity with imported })
    (appended :
      ∀ entity,
        Holds entity →
        Holds { entity with functions := appendGroups entity.functions incoming.functions })
    (edited : ∀ {change}, IsEdit change → Preserves Holds change) :
    Preserves Holds incoming.absorb := by
  have members :
      Preserves Holds (do
        modify fun entity => { entity with imported := entity.imported || incoming.imported }
        forAll (fun entry => Module.addClass entry.1 entry.2) incoming.innerClasses.entries
        forAll (fun entry => Module.addEnum entry.1 entry.2) incoming.innerEnums.entries
        modify fun entity =>
          { entity with functions := appendGroups entity.functions incoming.functions }
        forAll Module.addConstant incoming.constants.values) := by
    refine preserves_modify_bind (fun entity => flagged entity _) fun _ => ?_
    refine Preserves.bind (preserves_forAll fun _ _ => edited (.addClass _ _)) fun _ => ?_
    refine Preserves.bind (preserves_forAll fun _ _ => edited (.addEnum _ _)) fun _ => ?_
    refine preserves_modify_bind appended fun _ => ?_
    exact preserves_forAll fun _ _ => edited (.addConstant _)
  unfold absorb
  cases incoming.declaredAt with
  | none => exact members
  | some location =>
      refine preserves_get_bind fun _ => ?_
      refine Preserves.bind (preserves_requireUndeclared _ _ _ _) fun _ => ?_
      exact preserves_modify_bind (fun entity => declared entity location) fun _ => members

end Module

/-! ## Classes -/

namespace Class

/-- The changes that registrations make to one class. -/
inductive IsEdit : Change Class Unit → Prop where
  | declare (shadowKey pythonName : String) (doc parentKey : Option String)
      (location : Location) :
      IsEdit do
        requireUndeclared "class" shadowKey (← get).declaredAt location
        modify fun entity =>
          { entity with pythonName, doc, parentKey, declaredAt := some location }
  | addMethod (name : String) (method : Callable) : IsEdit (addMethod name method)
  | addConstructor (constructor : Callable) : IsEdit (addConstructor constructor)
  | addProperty (property : Property) : IsEdit (addProperty property)
  | addConstant (constant : Constant) : IsEdit (addConstant constant)
  | addClass (key : String) (location : Location) : IsEdit (addClass key location)
  | addEnum (key : String) (location : Location) : IsEdit (addEnum key location)
  | addImplicitSource (source : CppType) : IsEdit (addImplicitSource source)

/-- Absorbing another description keeps what its declaration, its flag, its overloads and edits
keep. -/
theorem preserves_absorb
    {Holds : Class → Prop}
    (incoming : Class)
    (declared :
      ∀ entity location,
        Holds entity →
        Holds
          { entity with
            pythonName := incoming.pythonName
            doc := incoming.doc
            parentKey := incoming.parentKey
            declaredAt := some location
            qualifiedName := incoming.qualifiedName })
    (flagged : ∀ entity imported, Holds entity → Holds { entity with imported })
    (appended :
      ∀ entity,
        Holds entity →
        Holds
          { entity with
            constructors := entity.constructors ++ incoming.constructors
            methods := appendGroups entity.methods incoming.methods })
    (edited : ∀ {change}, IsEdit change → Preserves Holds change) :
    Preserves Holds incoming.absorb := by
  have members :
      Preserves Holds (do
        modify fun entity => { entity with imported := entity.imported || incoming.imported }
        forAll (fun entry => Class.addClass entry.1 entry.2) incoming.innerClasses.entries
        forAll (fun entry => Class.addEnum entry.1 entry.2) incoming.innerEnums.entries
        modify fun entity =>
          { entity with
            constructors := entity.constructors ++ incoming.constructors
            methods := appendGroups entity.methods incoming.methods }
        forAll Class.addProperty incoming.properties.values
        forAll Class.addConstant incoming.constants.values
        forAll Class.addImplicitSource incoming.implicitSources) := by
    refine preserves_modify_bind (fun entity => flagged entity _) fun _ => ?_
    refine Preserves.bind (preserves_forAll fun _ _ => edited (.addClass _ _)) fun _ => ?_
    refine Preserves.bind (preserves_forAll fun _ _ => edited (.addEnum _ _)) fun _ => ?_
    refine preserves_modify_bind appended fun _ => ?_
    refine Preserves.bind (preserves_forAll fun _ _ => edited (.addProperty _)) fun _ => ?_
    refine Preserves.bind (preserves_forAll fun _ _ => edited (.addConstant _)) fun _ => ?_
    exact preserves_forAll fun _ _ => edited (.addImplicitSource _)
  unfold absorb
  cases incoming.declaredAt with
  | none => exact members
  | some location =>
      refine preserves_get_bind fun _ => ?_
      refine Preserves.bind (preserves_requireUndeclared _ _ _ _) fun _ => ?_
      exact preserves_modify_bind (fun entity => declared entity location) fun _ => members

end Class

/-! ## Enums -/

/-- Absorbing another description keeps what its declaration and its flag keep. -/
theorem Enumeration.preserves_absorb
    {Holds : Enumeration → Prop}
    (incoming : Enumeration)
    (declared :
      ∀ entity location,
        Holds entity →
        Holds
          { entity with
            pythonName := incoming.pythonName
            doc := incoming.doc
            values := incoming.values
            valueKind := incoming.valueKind
            declaredAt := some location
            qualifiedName := incoming.qualifiedName })
    (flagged : ∀ entity imported, Holds entity → Holds { entity with imported }) :
    Preserves Holds incoming.absorb := by
  have flags :
      Preserves Holds
        (modify fun entity => { entity with imported := entity.imported || incoming.imported }) :=
    preserves_modify fun entity => flagged entity _
  unfold absorb
  cases incoming.declaredAt with
  | none => exact flags
  | some location =>
      refine preserves_get_bind fun _ => ?_
      refine Preserves.bind (preserves_requireUndeclared _ _ _ _) fun _ => ?_
      exact preserves_modify_bind (fun entity => declared entity location) fun _ => flags

/-! ## Models -/

section Models

variable {Holds : BindingModel → Prop}

/-- A registration keeps what is kept when an entity is entered or edited, an enum is declared or a
rule is added. -/
theorem Registration.preserves_perform
    (registration : Registration)
    (entersModule : ∀ cppName, Preserves Holds (moduleEntry cppName))
    (entersClass :
      ∀ shadowKey cppType location, Preserves Holds (classEntry shadowKey cppType location))
    (entersEnum : ∀ cppName, Preserves Holds (enumEntry cppName))
    (editsModule :
      ∀ cppName {change}, Module.IsEdit change → Preserves Holds (inModule cppName change))
    (editsClass :
      ∀ shadowKey cppType location {change},
        Class.IsEdit change → Preserves Holds (inClass shadowKey cppType location change))
    (declaresEnum :
      ∀ cppName pythonName doc values location,
        registration = .declareEnum cppName pythonName doc values location →
        Preserves Holds (BindingModel.declareEnum cppName pythonName doc values location))
    (addsRule :
      ∀ rule, registration = .addRule rule → Preserves Holds (BindingModel.addRule rule)) :
    Preserves Holds registration.perform := by
  cases registration with
  | referToModule cppName => exact (entersModule cppName).discard
  | declareModule cppName pythonName doc location =>
      exact editsModule cppName (.declare cppName pythonName doc location)
  | referToClass shadowKey cppType location =>
      exact (entersClass shadowKey cppType location).discard
  | declareClass shadowKey cppType pythonName doc parentKey location =>
      exact editsClass _ _ _ (.declare shadowKey pythonName doc parentKey location)
  | referToEnum cppName => exact (entersEnum cppName).discard
  | declareEnum => exact declaresEnum _ _ _ _ _ rfl
  | addFunction cppName name function => exact editsModule _ (.addFunction name function)
  | addMethod shadowKey cppType location name method =>
      exact editsClass _ _ _ (.addMethod name method)
  | addConstructor shadowKey cppType location constructor =>
      exact editsClass _ _ _ (.addConstructor constructor)
  | addProperty shadowKey cppType location property =>
      exact editsClass _ _ _ (.addProperty property)
  | addConstant owner constant =>
      cases owner with
      | module => exact editsModule _ (.addConstant constant)
      | «class» => exact editsClass _ _ _ (.addConstant constant)
  | placeClass owner key placedAt =>
      cases owner with
      | module => exact editsModule _ (.addClass key placedAt)
      | «class» => exact editsClass _ _ _ (.addClass key placedAt)
  | placeEnum owner key placedAt =>
      cases owner with
      | module => exact editsModule _ (.addEnum key placedAt)
      | «class» => exact editsClass _ _ _ (.addEnum key placedAt)
  | addImplicitSource shadowKey cppType location source =>
      exact editsClass _ _ _ (.addImplicitSource source)
  | addRule rule => exact addsRule rule rfl

/-- A merge keeps what is kept when an entity is merged or a rule is added. -/
theorem BindingModel.preserves_merge
    {incoming : BindingModel}
    (modules : ∀ entity ∈ incoming.modules, Preserves Holds (mergeModule entity))
    (classes : ∀ entity ∈ incoming.classes, Preserves Holds (mergeClass entity))
    (enums : ∀ entity ∈ incoming.enums, Preserves Holds (mergeEnum entity))
    (rules : ∀ rule ∈ incoming.allRules, Preserves Holds (addRule rule)) :
    Preserves Holds incoming.merge := by
  refine (preserves_forAll modules).bind fun _ => ?_
  refine (preserves_forAll classes).bind fun _ => ?_
  exact (preserves_forAll enums).bind fun _ => preserves_forAll rules

end Models

end BindingStubs
