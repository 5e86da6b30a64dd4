import BindingStubs.Proofs.Model.ModuleDescription

namespace BindingStubs.Class

/-!
# How descriptions of a class are combined

Classes are combined when they agree in both keys.  Two classes that share only one of the
keys contradict each other.
-/

/-- What a description says about a class of given keys. -/
abbrev Details :=
  (Option Location × (String × Option String × Option String × Option String)) × Bool ×
    List (String × Location) × List (String × Location) × List Callable ×
    List (String × List Callable) × List (String × Property) ×
    List (String × Constant) × List CppType

/-- Descriptions of one class are combined member by member. -/
def details : Combining Details :=
  (Combining.declared ("", none, none, none)).prod
    (Combining.flag.prod
      (Members.placements.listing.prod
        (Members.placements.listing.prod
          ((Combining.appending Callable).prod
            (Members.groups.listing.prod
              (Members.properties.listing.prod
                (Members.constants.listing.prod Members.sources.listing)))))))

def view : Class ≃ (String × CppType) × Details where
  toFun entity :=
    ((entity.shadowKey, entity.cppType),
      (entity.declaredAt, entity.pythonName, entity.doc, entity.parentKey,
        entity.qualifiedName),
      entity.imported, entity.innerClasses.entries, entity.innerEnums.entries,
      entity.constructors, entity.methods.entries, entity.properties.entries,
      entity.constants.entries, entity.implicitSources)
  invFun whole :=
    let ((shadowKey, cppType), (declaredAt, pythonName, doc, parentKey, qualifiedName),
      imported, innerClasses, innerEnums, constructors, methods, properties, constants,
      implicitSources) := whole
    { pythonName, shadowKey, cppType, parentKey, doc, qualifiedName, constructors,
      implicitSources, declaredAt, imported
      innerClasses := ⟨innerClasses⟩
      innerEnums := ⟨innerEnums⟩
      methods := ⟨methods⟩
      properties := ⟨properties⟩
      constants := ⟨constants⟩ }
  left_inv _ := rfl
  right_inv _ := rfl

def keys
    (entity : Class) :
    String × CppType :=
  (entity.shadowKey, entity.cppType)

/-- Whether classes with these keys cannot stand side by side. -/
def sharesKey
    (first second : String × CppType) :
    Bool :=
  first.1 == second.1 || first.2 == second.2

/-- Classes of the same keys are combined. -/
def joining : Joining Class :=
  (Joining.keyed sharesKey details fun _ _ => True).through view

theorem lawful_details : details.Lawful :=
  (Combining.lawful_declared _).prod
    (Combining.lawful_flag.prod
      (Members.lawful_placements.listing.prod
        (Members.lawful_placements.listing.prod
          (Combining.lawful_appending.prod
            (Members.lawful_groups.listing.prod
              (Members.lawful_properties.listing.prod
                (Members.lawful_constants.listing.prod
                  Members.lawful_sources.listing)))))))

theorem sharesKey_comm
    (first second : String × CppType) :
    sharesKey first second = sharesKey second first := by
  rw [sharesKey, sharesKey, Bool.beq_comm, Bool.beq_comm (a := first.2)]

theorem lawful_joining : joining.Lawful :=
  (Joining.lawful_keyed lawful_details sharesKey_comm fun _ _ _ _ _ _ _ => trivial).through
    view

/-- A class is known by its keys, and a placeholder says nothing about it. -/
theorem identified :
    joining.Identified keys fun (shadowKey, cppType) => placeholder shadowKey cppType :=
  Joining.identified_through
    ((Combining.neutral_declared _).prod
      (Combining.neutral_flag.prod
        ((Combining.neutral_nil _).prod
          ((Combining.neutral_nil _).prod
            (Combining.neutral_appending.prod
              ((Combining.neutral_nil _).prod
                ((Combining.neutral_nil _).prod
                  ((Combining.neutral_nil _).prod (Combining.neutral_nil _)))))))))
    view

/-- The declaration of a class with what is declared there. -/
def declaration
    (entity : Class) :
    Option Location × (String × Option String × Option String × Option String) :=
  (entity.declaredAt, entity.pythonName, entity.doc, entity.parentKey, entity.qualifiedName)

theorem combine?_eq
    {one other : Class}
    (sameKeys : one.keys = other.keys) :
    joining.combine? one other =
      ((Combining.declared ("", none, none, none)).combine? one.declaration
          other.declaration).bind fun declaration =>
        (Members.placements.insertAll? one.innerClasses.entries
            other.innerClasses.entries).bind fun innerClasses =>
          (Members.placements.insertAll? one.innerEnums.entries
              other.innerEnums.entries).bind fun innerEnums =>
            (Members.properties.insertAll? one.properties.entries
                other.properties.entries).bind fun properties =>
              (Members.constants.insertAll? one.constants.entries
                  other.constants.entries).bind fun constants =>
                (Members.sources.insertAll? one.implicitSources
                    other.implicitSources).map fun implicitSources =>
                  { pythonName := declaration.2.1
                    shadowKey := one.shadowKey
                    cppType := one.cppType
                    parentKey := declaration.2.2.2.1
                    doc := declaration.2.2.1
                    qualifiedName := declaration.2.2.2.2
                    innerClasses := ⟨innerClasses⟩
                    innerEnums := ⟨innerEnums⟩
                    constructors := one.constructors ++ other.constructors
                    methods := BindingModel.appendGroups one.methods other.methods
                    properties := ⟨properties⟩
                    constants := ⟨constants⟩
                    implicitSources := implicitSources
                    declaredAt := declaration.1
                    imported := one.imported || other.imported } := by
  obtain ⟨sameKey, sameType⟩ := Prod.ext_iff.mp sameKeys
  simp only [keys] at sameKey sameType
  simp [joining, Joining.through, Joining.keyed, view, details, Combining.prod,
    Combining.both, Members.groups_insertAll?, Combining.flag, Combining.appending, sameKey,
    sameType, declaration, Option.map_bind, Function.comp_def]

/-- A description that is no declaration leaves what is declared as it is. -/
theorem combine?_of_undeclared
    {one other : Class}
    (sameKeys : one.keys = other.keys)
    (undeclared : other.declaredAt = none) :
    joining.combine? one other =
      (Members.placements.insertAll? one.innerClasses.entries
          other.innerClasses.entries).bind fun innerClasses =>
        (Members.placements.insertAll? one.innerEnums.entries
            other.innerEnums.entries).bind fun innerEnums =>
          (Members.properties.insertAll? one.properties.entries
              other.properties.entries).bind fun properties =>
            (Members.constants.insertAll? one.constants.entries
                other.constants.entries).bind fun constants =>
              (Members.sources.insertAll? one.implicitSources
                  other.implicitSources).map fun implicitSources =>
                { one with
                  innerClasses := ⟨innerClasses⟩
                  innerEnums := ⟨innerEnums⟩
                  constructors := one.constructors ++ other.constructors
                  methods := BindingModel.appendGroups one.methods other.methods
                  properties := ⟨properties⟩
                  constants := ⟨constants⟩
                  implicitSources := implicitSources
                  imported := one.imported || other.imported } := by
  rw [combine?_eq sameKeys, declaration, declaration, undeclared,
    Combining.declared_combine?_none, Option.bind_some]

theorem valid_iff
    {entity : Class} :
    joining.Valid entity ↔
      (entity.declaredAt = none →
          (entity.pythonName, entity.doc, entity.parentKey, entity.qualifiedName) =
            ("", none, none, none)) ∧
        Members.placements.Tidy entity.innerClasses.entries ∧
        Members.placements.Tidy entity.innerEnums.entries ∧
        Members.groups.Tidy entity.methods.entries ∧
        Members.properties.Tidy entity.properties.entries ∧
        Members.constants.Tidy entity.constants.entries ∧
        Members.sources.Tidy entity.implicitSources := by
  simp [joining, Joining.through, Joining.keyed, view, details, Combining.prod,
    Combining.declared, Combining.flag, Combining.appending, Joining.listing]

@[simp] theorem after?_addProperty
    (property : Property)
    (owner : Class) :
    Change.after? (addProperty property) owner =
      (Members.properties.insert? (property.name, property) owner.properties.entries).map
        fun entries => { owner with properties := ⟨entries⟩ } := by
  rw [Members.properties, Joining.named_insert?, addProperty, Change.after?_get_bind]
  cases owner.properties.get? property.name with
  | none => rfl
  | some existing =>
      simp [Property.after?_absorb, Function.comp_def]

@[simp] theorem after?_addConstant
    (constant : Constant)
    (owner : Class) :
    Change.after? (addConstant constant) owner =
      (Members.constants.insert? (constant.name, constant) owner.constants.entries).map
        fun entries => { owner with constants := ⟨entries⟩ } := by
  simp [addConstant, Members.after?_insertConstant, Function.comp_def]

@[simp] theorem after?_addClass
    (key : String)
    (location : Location)
    (owner : Class) :
    Change.after? (addClass key location) owner =
      (Members.placements.insert? (key, location) owner.innerClasses.entries).map
        fun entries => { owner with innerClasses := ⟨entries⟩ } := by
  simp [addClass, Members.after?_place, Function.comp_def]

@[simp] theorem after?_addEnum
    (key : String)
    (location : Location)
    (owner : Class) :
    Change.after? (addEnum key location) owner =
      (Members.placements.insert? (key, location) owner.innerEnums.entries).map
        fun entries => { owner with innerEnums := ⟨entries⟩ } := by
  simp [addEnum, Members.after?_place, Function.comp_def]

@[simp] theorem after?_addImplicitSource
    (source : CppType)
    (owner : Class) :
    Change.after? (addImplicitSource source) owner =
      (Members.sources.insert? source owner.implicitSources).map
        fun implicitSources => { owner with implicitSources } := by
  simp [addImplicitSource, Members.sources_insert?]

theorem adds_declaration
    (shadowKey : String)
    (cppType : CppType)
    (pythonName : String)
    (doc parentKey : Option String)
    (location : Location) :
    Adds joining keys
      (do
        BindingModel.requireUndeclared "class" shadowKey (← get).declaredAt location
        modify fun entity =>
          { entity with pythonName, doc, parentKey, declaredAt := some location })
      { shadowKey, cppType, pythonName, doc, parentKey, declaredAt := some location } where
  valid := by
    simp [valid_iff]
  after? := by
    intro owner valid sameKeys
    have undeclared := (valid_iff.mp valid).1
    rw [combine?_eq sameKeys]
    cases declaredAt : owner.declaredAt with
    | none =>
        simp_all [declaration, Combining.declared_combine?_some, Members.appendGroups_nil]
    | some former =>
        simp [declaration, declaredAt, Combining.declared_combine?_some]

theorem adds_method
    (shadowKey : String)
    (cppType : CppType)
    (name : String)
    (method : Callable) :
    Adds joining keys (addMethod name method)
      { shadowKey, cppType, methods := ⟨[(name, [method])]⟩ } where
  valid := by
    simp [valid_iff]
  after? := by
    intro owner _ sameKeys
    rw [combine?_of_undeclared sameKeys rfl]
    simp [addMethod, Members.appendGroups_singleton]

theorem adds_constructor
    (shadowKey : String)
    (cppType : CppType)
    (constructor : Callable) :
    Adds joining keys (addConstructor constructor)
      { shadowKey, cppType, constructors := [constructor] } where
  valid := by
    simp [valid_iff]
  after? := by
    intro owner _ sameKeys
    rw [combine?_of_undeclared sameKeys rfl]
    simp [addConstructor, Members.appendGroups_nil]

theorem adds_property
    (shadowKey : String)
    (cppType : CppType)
    (property : Property) :
    Adds joining keys (addProperty property)
      { shadowKey, cppType, properties := ⟨[(property.name, property)]⟩ } where
  valid := by
    simp [valid_iff]
  after? := by
    intro owner _ sameKeys
    rw [combine?_of_undeclared sameKeys rfl]
    simp [Members.appendGroups_nil, Option.map_eq_bind]

theorem adds_constant
    (shadowKey : String)
    (cppType : CppType)
    (constant : Constant) :
    Adds joining keys (addConstant constant)
      { shadowKey, cppType, constants := ⟨[(constant.name, constant)]⟩ } where
  valid := by
    simp [valid_iff]
  after? := by
    intro owner _ sameKeys
    rw [combine?_of_undeclared sameKeys rfl]
    simp [Members.appendGroups_nil, Option.map_eq_bind]

theorem adds_class
    (shadowKey : String)
    (cppType : CppType)
    (key : String)
    (location : Location) :
    Adds joining keys (addClass key location)
      { shadowKey, cppType, innerClasses := ⟨[(key, location)]⟩ } where
  valid := by
    simp [valid_iff]
  after? := by
    intro owner _ sameKeys
    rw [combine?_of_undeclared sameKeys rfl]
    simp [Members.appendGroups_nil, Option.map_eq_bind]

theorem adds_enum
    (shadowKey : String)
    (cppType : CppType)
    (key : String)
    (location : Location) :
    Adds joining keys (addEnum key location)
      { shadowKey, cppType, innerEnums := ⟨[(key, location)]⟩ } where
  valid := by
    simp [valid_iff]
  after? := by
    intro owner _ sameKeys
    rw [combine?_of_undeclared sameKeys rfl]
    simp [Members.appendGroups_nil, Option.map_eq_bind]

theorem adds_source
    (shadowKey : String)
    (cppType source : CppType) :
    Adds joining keys (addImplicitSource source)
      { shadowKey, cppType, implicitSources := [source] } where
  valid := by
    simp [valid_iff]
  after? := by
    intro owner _ sameKeys
    rw [combine?_of_undeclared sameKeys rfl]
    simp [Members.appendGroups_nil]

theorem after?_forAll_addClass
    (entries : List (String × Location))
    (owner : Class) :
    Change.after? (BindingModel.forAll (fun entry => addClass entry.1 entry.2) entries) owner =
      (Members.placements.insertAll? owner.innerClasses.entries entries).map
        fun entries => { owner with innerClasses := ⟨entries⟩ } := by
  simpa using Members.after?_forAll_insert Members.placements
    (fun owner : Class => owner.innerClasses.entries)
    (fun owner entries => { owner with innerClasses := ⟨entries⟩ })
    (fun entry => addClass entry.1 entry.2) id (fun _ _ => after?_addClass ..)
    (fun _ _ => rfl) (fun _ _ _ => rfl) (fun _ => rfl) entries owner

theorem after?_forAll_addEnum
    (entries : List (String × Location))
    (owner : Class) :
    Change.after? (BindingModel.forAll (fun entry => addEnum entry.1 entry.2) entries) owner =
      (Members.placements.insertAll? owner.innerEnums.entries entries).map
        fun entries => { owner with innerEnums := ⟨entries⟩ } := by
  simpa using Members.after?_forAll_insert Members.placements
    (fun owner : Class => owner.innerEnums.entries)
    (fun owner entries => { owner with innerEnums := ⟨entries⟩ })
    (fun entry => addEnum entry.1 entry.2) id (fun _ _ => after?_addEnum ..)
    (fun _ _ => rfl) (fun _ _ _ => rfl) (fun _ => rfl) entries owner

theorem after?_forAll_addProperty
    {keyedProperties : Keyed Property}
    (tidy : Members.properties.Tidy keyedProperties.entries)
    (owner : Class) :
    Change.after? (BindingModel.forAll addProperty keyedProperties.values) owner =
      (Members.properties.insertAll? owner.properties.entries keyedProperties.entries).map
        fun entries => { owner with properties := ⟨entries⟩ } := by
  have named : ∀ entry ∈ keyedProperties.entries, entry.2.name = entry.1 :=
    fun entry member => Members.valid_property_iff.mp (tidy.valid entry member)
  rw [← Members.map_values_of_named named]
  exact Members.after?_forAll_insert Members.properties
    (fun owner => owner.properties.entries)
    (fun owner entries => { owner with properties := ⟨entries⟩ }) addProperty
    (fun property => (property.name, property)) after?_addProperty (fun _ _ => rfl)
    (fun _ _ _ => rfl) (fun _ => rfl) keyedProperties.values owner

theorem after?_forAll_addConstant
    {keyedConstants : Keyed Constant}
    (tidy : Members.constants.Tidy keyedConstants.entries)
    (owner : Class) :
    Change.after? (BindingModel.forAll addConstant keyedConstants.values) owner =
      (Members.constants.insertAll? owner.constants.entries keyedConstants.entries).map
        fun entries => { owner with constants := ⟨entries⟩ } := by
  have named : ∀ entry ∈ keyedConstants.entries, entry.2.name = entry.1 :=
    fun entry member => Members.valid_constant_iff.mp (tidy.valid entry member)
  rw [← Members.map_values_of_named named]
  exact Members.after?_forAll_insert Members.constants (fun owner => owner.constants.entries)
    (fun owner entries => { owner with constants := ⟨entries⟩ }) addConstant
    (fun constant => (constant.name, constant)) after?_addConstant (fun _ _ => rfl)
    (fun _ _ _ => rfl) (fun _ => rfl) keyedConstants.values owner

theorem after?_forAll_addImplicitSource
    (sources : List CppType)
    (owner : Class) :
    Change.after? (BindingModel.forAll addImplicitSource sources) owner =
      (Members.sources.insertAll? owner.implicitSources sources).map
        fun implicitSources => { owner with implicitSources } := by
  simpa using Members.after?_forAll_insert Members.sources implicitSources
    (fun owner implicitSources => { owner with implicitSources }) addImplicitSource id
    after?_addImplicitSource (fun _ _ => rfl) (fun _ _ _ => rfl) (fun _ => rfl) sources owner

/-- Taking over a description of a class is combining with it. -/
theorem adds_absorb
    {incoming : Class}
    (valid : joining.Valid incoming) :
    Adds joining keys incoming.absorb incoming where
  valid := valid
  after? := by
    intro owner _ sameKeys
    obtain ⟨_, _, _, _, propertiesTidy, constantsTidy, _⟩ := valid_iff.mp valid
    rw [absorb]
    cases declaredAt : incoming.declaredAt with
    | none =>
        rw [combine?_of_undeclared sameKeys declaredAt]
        simp [after?_forAll_addClass, after?_forAll_addEnum,
          after?_forAll_addProperty propertiesTidy, after?_forAll_addConstant constantsTidy,
          after?_forAll_addImplicitSource, Option.bind_map]
    | some site =>
        rw [combine?_eq sameKeys]
        cases ownerDeclared : owner.declaredAt <;>
          simp [declaration, declaredAt, ownerDeclared, Combining.declared_combine?_some,
            after?_forAll_addClass, after?_forAll_addEnum,
            after?_forAll_addProperty propertiesTidy, after?_forAll_addConstant constantsTidy,
            after?_forAll_addImplicitSource, Option.bind_map]

end BindingStubs.Class
