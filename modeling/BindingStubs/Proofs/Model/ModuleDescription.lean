import BindingStubs.Proofs.Model.Members
import Mathlib.Data.Option.Basic

namespace BindingStubs

/-!
# How descriptions of a module are combined

Two descriptions of one module are combined member by member.  At most one of them may be
the declaration.  Every change that a registration makes in a module, and every merge of a
module into another, is combining with a description that says just that.
-/

/-- A change of an entity that comes to the same as combining with another description. -/
structure Adds
    {Entity Key : Type}
    (joining : Joining Entity)
    (key : Entity → Key)
    (change : Change Entity Unit)
    (addition : Entity) : Prop where
  valid :
    joining.Valid addition
  after? :
    ∀ {owner},
      joining.Valid owner →
      key owner = key addition →
      Change.after? change owner = joining.combine? owner addition

namespace Module

/-- What a description says about a module of a given name. -/
abbrev Details :=
  (Option Location × (String × Option String × Option String)) × Bool ×
    List (String × Location) × List (String × Location) ×
    List (String × List Callable) × List (String × Constant)

/-- Descriptions of one module are combined member by member. -/
def details : Combining Details :=
  (Combining.declared ("", none, none)).prod
    (Combining.flag.prod
      (Members.placements.listing.prod
        (Members.placements.listing.prod
          (Members.groups.listing.prod Members.constants.listing))))

def view : Module ≃ String × Details where
  toFun entity :=
    (entity.cppName,
      (entity.declaredAt, entity.pythonName, entity.doc, entity.qualifiedName),
      entity.imported, entity.innerClasses.entries, entity.innerEnums.entries,
      entity.functions.entries, entity.constants.entries)
  invFun whole :=
    let (cppName, (declaredAt, pythonName, doc, qualifiedName), imported, innerClasses,
      innerEnums, functions, constants) := whole
    { cppName, pythonName, doc, qualifiedName, declaredAt, imported
      innerClasses := ⟨innerClasses⟩
      innerEnums := ⟨innerEnums⟩
      functions := ⟨functions⟩
      constants := ⟨constants⟩ }
  left_inv _ := rfl
  right_inv _ := rfl

/-- Modules of one name are combined. -/
def joining : Joining Module :=
  (Joining.named details fun _ _ => True).through view

theorem lawful_details : details.Lawful :=
  (Combining.lawful_declared _).prod
    (Combining.lawful_flag.prod
      (Members.lawful_placements.listing.prod
        (Members.lawful_placements.listing.prod
          (Members.lawful_groups.listing.prod Members.lawful_constants.listing))))

theorem lawful_joining : joining.Lawful :=
  (Joining.lawful_named lawful_details fun _ _ _ _ _ _ _ => trivial).through view

/-- A module is known by its name, and a placeholder says nothing about it. -/
theorem identified : joining.Identified cppName placeholder :=
  Joining.identified_through
    ((Combining.neutral_declared _).prod
      (Combining.neutral_flag.prod
        ((Combining.neutral_nil _).prod
          ((Combining.neutral_nil _).prod
            ((Combining.neutral_nil _).prod (Combining.neutral_nil _))))))
    view

/-- The declaration of a module with what is declared there. -/
def declaration
    (entity : Module) :
    Option Location × (String × Option String × Option String) :=
  (entity.declaredAt, entity.pythonName, entity.doc, entity.qualifiedName)

/-- Two descriptions of a module are combined one kind of member after the other. -/
theorem combine?_eq
    {one other : Module}
    (sameName : one.cppName = other.cppName) :
    joining.combine? one other =
      ((Combining.declared ("", none, none)).combine? one.declaration
          other.declaration).bind fun declaration =>
        (Members.placements.insertAll? one.innerClasses.entries
            other.innerClasses.entries).bind fun innerClasses =>
          (Members.placements.insertAll? one.innerEnums.entries
              other.innerEnums.entries).bind fun innerEnums =>
            (Members.constants.insertAll? one.constants.entries
                other.constants.entries).map fun constants =>
              { cppName := one.cppName
                pythonName := declaration.2.1
                doc := declaration.2.2.1
                qualifiedName := declaration.2.2.2
                innerClasses := ⟨innerClasses⟩
                innerEnums := ⟨innerEnums⟩
                functions := BindingModel.appendGroups one.functions other.functions
                constants := ⟨constants⟩
                declaredAt := declaration.1
                imported := one.imported || other.imported } := by
  simp [joining, Joining.through, Joining.named, Joining.keyed, view, details,
    Combining.prod, Combining.both, Joining.listing, Members.groups_insertAll?,
    Combining.flag, sameName, declaration, Option.map_bind, Function.comp_def]

/-- A description that is no declaration leaves what is declared as it is. -/
theorem combine?_of_undeclared
    {one other : Module}
    (sameName : one.cppName = other.cppName)
    (undeclared : other.declaredAt = none) :
    joining.combine? one other =
      (Members.placements.insertAll? one.innerClasses.entries
          other.innerClasses.entries).bind fun innerClasses =>
        (Members.placements.insertAll? one.innerEnums.entries
            other.innerEnums.entries).bind fun innerEnums =>
          (Members.constants.insertAll? one.constants.entries
              other.constants.entries).map fun constants =>
            { one with
              innerClasses := ⟨innerClasses⟩
              innerEnums := ⟨innerEnums⟩
              functions := BindingModel.appendGroups one.functions other.functions
              constants := ⟨constants⟩
              imported := one.imported || other.imported } := by
  rw [combine?_eq sameName, declaration, declaration, undeclared,
    Combining.declared_combine?_none, Option.bind_some]

theorem valid_iff
    {entity : Module} :
    joining.Valid entity ↔
      (entity.declaredAt = none →
          (entity.pythonName, entity.doc, entity.qualifiedName) = ("", none, none)) ∧
        Members.placements.Tidy entity.innerClasses.entries ∧
        Members.placements.Tidy entity.innerEnums.entries ∧
        Members.groups.Tidy entity.functions.entries ∧
        Members.constants.Tidy entity.constants.entries := by
  simp [joining, Joining.through, Joining.named, Joining.keyed, view, details,
    Combining.prod, Combining.declared, Combining.flag, Joining.listing]

@[simp] theorem after?_addConstant
    (constant : Constant)
    (owner : Module) :
    Change.after? (addConstant constant) owner =
      (Members.constants.insert? (constant.name, constant) owner.constants.entries).map
        fun entries => { owner with constants := ⟨entries⟩ } := by
  simp [addConstant, Members.after?_insertConstant, Function.comp_def]

@[simp] theorem after?_addClass
    (key : String)
    (location : Location)
    (owner : Module) :
    Change.after? (addClass key location) owner =
      (Members.placements.insert? (key, location) owner.innerClasses.entries).map
        fun entries => { owner with innerClasses := ⟨entries⟩ } := by
  simp [addClass, Members.after?_place, Function.comp_def]

@[simp] theorem after?_addEnum
    (key : String)
    (location : Location)
    (owner : Module) :
    Change.after? (addEnum key location) owner =
      (Members.placements.insert? (key, location) owner.innerEnums.entries).map
        fun entries => { owner with innerEnums := ⟨entries⟩ } := by
  simp [addEnum, Members.after?_place, Function.comp_def]

theorem adds_declaration
    (cppName pythonName : String)
    (doc : Option String)
    (location : Location) :
    Adds joining Module.cppName
      (do
        BindingModel.requireUndeclared "module" cppName (← get).declaredAt location
        modify fun entity => { entity with pythonName, doc, declaredAt := some location })
      { cppName, pythonName, doc, declaredAt := some location } where
  valid := by
    simp [valid_iff]
  after? := by
    rintro owner valid rfl
    have undeclared := (valid_iff.mp valid).1
    cases declaredAt : owner.declaredAt with
    | none =>
        simp_all [combine?_eq, declaration, Combining.declared_combine?_some,
          Members.appendGroups_nil]
    | some former =>
        simp [combine?_eq, declaration, declaredAt, Combining.declared_combine?_some]

theorem adds_function
    (cppName name : String)
    (function : Callable) :
    Adds joining Module.cppName (addFunction name function)
      { cppName, functions := ⟨[(name, [function])]⟩ } where
  valid := by
    simp [valid_iff]
  after? := by
    intro owner _ sameName
    rw [combine?_of_undeclared sameName rfl]
    simp [addFunction, Members.appendGroups_singleton]

theorem adds_constant
    (cppName : String)
    (constant : Constant) :
    Adds joining Module.cppName (addConstant constant)
      { cppName, constants := ⟨[(constant.name, constant)]⟩ } where
  valid := by
    simp [valid_iff]
  after? := by
    intro owner _ sameName
    rw [combine?_of_undeclared sameName rfl]
    simp [Members.appendGroups_nil]

theorem adds_class
    (cppName key : String)
    (location : Location) :
    Adds joining Module.cppName (addClass key location)
      { cppName, innerClasses := ⟨[(key, location)]⟩ } where
  valid := by
    simp [valid_iff]
  after? := by
    intro owner _ sameName
    rw [combine?_of_undeclared sameName rfl]
    simp [Members.appendGroups_nil, Option.map_eq_bind]

theorem adds_enum
    (cppName key : String)
    (location : Location) :
    Adds joining Module.cppName (addEnum key location)
      { cppName, innerEnums := ⟨[(key, location)]⟩ } where
  valid := by
    simp [valid_iff]
  after? := by
    intro owner _ sameName
    rw [combine?_of_undeclared sameName rfl]
    simp [Members.appendGroups_nil, Option.map_eq_bind]

theorem after?_forAll_addClass
    (entries : List (String × Location))
    (owner : Module) :
    Change.after? (BindingModel.forAll (fun entry => addClass entry.1 entry.2) entries) owner =
      (Members.placements.insertAll? owner.innerClasses.entries entries).map
        fun entries => { owner with innerClasses := ⟨entries⟩ } := by
  simpa using Members.after?_forAll_insert Members.placements
    (fun owner : Module => owner.innerClasses.entries)
    (fun owner entries => { owner with innerClasses := ⟨entries⟩ })
    (fun entry => addClass entry.1 entry.2) id (fun _ _ => after?_addClass ..)
    (fun _ _ => rfl) (fun _ _ _ => rfl) (fun _ => rfl) entries owner

theorem after?_forAll_addEnum
    (entries : List (String × Location))
    (owner : Module) :
    Change.after? (BindingModel.forAll (fun entry => addEnum entry.1 entry.2) entries) owner =
      (Members.placements.insertAll? owner.innerEnums.entries entries).map
        fun entries => { owner with innerEnums := ⟨entries⟩ } := by
  simpa using Members.after?_forAll_insert Members.placements
    (fun owner : Module => owner.innerEnums.entries)
    (fun owner entries => { owner with innerEnums := ⟨entries⟩ })
    (fun entry => addEnum entry.1 entry.2) id (fun _ _ => after?_addEnum ..)
    (fun _ _ => rfl) (fun _ _ _ => rfl) (fun _ => rfl) entries owner

theorem after?_forAll_addConstant
    {keyedConstants : Keyed Constant}
    (tidy : Members.constants.Tidy keyedConstants.entries)
    (owner : Module) :
    Change.after? (BindingModel.forAll addConstant keyedConstants.values) owner =
      (Members.constants.insertAll? owner.constants.entries keyedConstants.entries).map
        fun entries => { owner with constants := ⟨entries⟩ } := by
  have named : ∀ entry ∈ keyedConstants.entries, entry.2.name = entry.1 :=
    fun entry member => Members.valid_constant_iff.mp (tidy.valid entry member)
  rw [← Members.map_values_of_named named]
  exact Members.after?_forAll_insert Members.constants (fun owner => owner.constants.entries)
    (fun owner entries => { owner with constants := ⟨entries⟩ }) addConstant
    (fun constant => (constant.name, constant)) after?_addConstant (fun _ _ => rfl)
    (fun _ _ _ => rfl) (fun _ => rfl) keyedConstants.values owner

/-- Taking over a description of a module is combining with it. -/
theorem adds_absorb
    {incoming : Module}
    (valid : joining.Valid incoming) :
    Adds joining Module.cppName incoming.absorb incoming where
  valid := valid
  after? := by
    intro owner _ sameName
    obtain ⟨_, _, _, _, constantsTidy⟩ := valid_iff.mp valid
    rw [absorb]
    cases declaredAt : incoming.declaredAt with
    | none =>
        rw [combine?_of_undeclared sameName declaredAt]
        simp [after?_forAll_addClass, after?_forAll_addEnum,
          after?_forAll_addConstant constantsTidy, Option.bind_map]
    | some site =>
        rw [combine?_eq sameName]
        cases ownerDeclared : owner.declaredAt <;>
          simp [declaration, declaredAt, ownerDeclared, Combining.declared_combine?_some,
            after?_forAll_addClass, after?_forAll_addEnum,
            after?_forAll_addConstant constantsTidy, Option.bind_map]

end Module

end BindingStubs
