import BindingStubs.Proofs.Model.Contents
import BindingStubs.Proofs.Model.Preservation
import BindingStubs.Proofs.Naming.Filling

namespace BindingStubs

/-!
# Descriptions stay valid

The members of a valid description stand under their own names, no two of them share one, and what
is not declared says nothing about itself.  Every change that a registration, a merge or the
assignment of names makes in an entity keeps its description valid, also where the change is refused
halfway.
-/

open BindingModel Change

/-! ## Members -/

/-- Putting a valid part under its name keeps keyed parts tidy. -/
theorem Joining.Tidy.insert
    {Part : Type}
    {combining : Combining Part}
    {Fits : String → Part → Prop}
    {keyedParts : Keyed Part}
    (tidy : (Joining.named combining Fits).Tidy keyedParts.entries)
    {name : String}
    {part : Part}
    (valid : combining.Valid part)
    (fits : Fits name part) :
    (Joining.named combining Fits).Tidy (keyedParts.insert name part).entries where
  valid := by
    intro entry member
    rcases Keyed.mem_entries_insert member with former | rfl
    · exact tidy.valid entry former
    · exact ⟨valid, fits⟩
  apart := by
    have distinct := Keyed.nodup_keys_insert tidy.nodup_keys name part
    refine (List.pairwise_map.mp distinct).imp ?_
    intro first second apart
    exact beq_eq_false_iff_ne.mpr apart

namespace Members

theorem preserves_tidy_place
    (kind owner key : String)
    (location : Location) :
    Preserves (fun placed => placements.Tidy placed.entries) (place kind owner key location) := by
  intro placed tidy
  simp only [left, place, Change.get_bind]
  cases placed.get? key with
  | none => exact tidy.insert trivial trivial
  | some first => exact tidy

theorem preserves_tidy_insertConstant
    (owner : String)
    (constant : Constant) :
    Preserves (fun present => constants.Tidy present.entries)
      (insertConstant owner constant) := by
  intro present tidy
  simp only [left, insertConstant, Change.get_bind]
  cases present.get? constant.name with
  | none => exact tidy.insert trivial rfl
  | some existing => exact tidy

theorem tidy_appendGroups
    {present : Keyed (List Callable)}
    (tidy : groups.Tidy present.entries)
    (incoming : Keyed (List Callable)) :
    groups.Tidy (appendGroups present incoming).entries :=
  lawful_groups.insertAll?_tidy tidy (fun entry _ => valid_group entry)
    (groups_insertAll? present incoming)

theorem tidy_appendOverloads
    {present : Keyed (List Callable)}
    (tidy : groups.Tidy present.entries)
    (name : String)
    (overloads : List Callable) :
    groups.Tidy (appendOverloads present name overloads).entries :=
  lawful_groups.insert?_tidy tidy (valid_group _) (groups_insert? present name overloads)

theorem tidy_insertSource
    {present : List CppType}
    (tidy : sources.Tidy present)
    (source : CppType) :
    sources.Tidy (insertSource present source) :=
  lawful_sources.insert?_tidy tidy (valid_source source) (sources_insert? present source)

end Members

/-- Completing a property does not rename it. -/
theorem Property.name_left_absorb
    (owner : String)
    (property incoming : Property) :
    (left (absorb owner incoming) property).name = property.name := by
  obtain ⟨_, _, getter, setter, _, _⟩ := property
  obtain ⟨_, _, incomingGetter, incomingSetter, _, _⟩ := incoming
  cases getter <;> cases incomingGetter <;> cases setter <;> cases incomingSetter <;> rfl

/-! ## Modules -/

namespace Module

/-- A module that is declared may say anything about itself. -/
theorem valid_declared
    {entity : Module}
    (valid : joining.Valid entity)
    (pythonName : String)
    (doc qualifiedName : Option String)
    (location : Location) :
    joining.Valid { entity with pythonName, doc, qualifiedName, declaredAt := some location } :=
  valid_iff.mpr ⟨nofun, (valid_iff.mp valid).2⟩

theorem valid_renamed
    {entity : Module}
    (valid : joining.Valid entity)
    (declared : entity.declaredAt.isSome)
    (qualifiedName : Option String) :
    joining.Valid { entity with qualifiedName } :=
  valid_iff.mpr
    ⟨fun undeclared => absurd undeclared (Option.isSome_iff_ne_none.mp declared),
      (valid_iff.mp valid).2⟩

theorem valid_flagged
    {entity : Module}
    (valid : joining.Valid entity)
    (imported : Bool) :
    joining.Valid { entity with imported } :=
  valid_iff.mpr (valid_iff.mp valid)

theorem preserves_valid_addFunction
    (name : String)
    (function : Callable) :
    Preserves joining.Valid (addFunction name function) := by
  refine preserves_modify fun entity valid => ?_
  obtain ⟨undeclared, classes, enums, functions, constants⟩ := valid_iff.mp valid
  exact valid_iff.mpr ⟨undeclared, classes, enums, Members.tidy_appendOverloads functions name _,
    constants⟩

theorem preserves_valid_addConstant
    (constant : Constant) :
    Preserves joining.Valid (addConstant constant) := by
  refine preserves_get_bind fun _ =>
    (Members.preserves_tidy_insertConstant _ constant).onPart ?_ ?_
  · exact fun entity valid => (valid_iff.mp valid).2.2.2.2
  · intro entity changed valid tidy
    obtain ⟨undeclared, classes, enums, functions, _⟩ := valid_iff.mp valid
    exact valid_iff.mpr ⟨undeclared, classes, enums, functions, tidy⟩

theorem preserves_valid_addClass
    (key : String)
    (location : Location) :
    Preserves joining.Valid (addClass key location) := by
  refine preserves_get_bind fun _ => (Members.preserves_tidy_place _ _ key location).onPart ?_ ?_
  · exact fun entity valid => (valid_iff.mp valid).2.1
  · intro entity changed valid tidy
    obtain ⟨undeclared, _, enums, functions, constants⟩ := valid_iff.mp valid
    exact valid_iff.mpr ⟨undeclared, tidy, enums, functions, constants⟩

theorem preserves_valid_addEnum
    (key : String)
    (location : Location) :
    Preserves joining.Valid (addEnum key location) := by
  refine preserves_get_bind fun _ => (Members.preserves_tidy_place _ _ key location).onPart ?_ ?_
  · exact fun entity valid => (valid_iff.mp valid).2.2.1
  · intro entity changed valid tidy
    obtain ⟨undeclared, classes, _, functions, constants⟩ := valid_iff.mp valid
    exact valid_iff.mpr ⟨undeclared, classes, tidy, functions, constants⟩

theorem IsEdit.preserves_valid
    {change : Change Module Unit}
    (edit : IsEdit change) :
    Preserves joining.Valid change := by
  cases edit with
  | declare cppName pythonName doc location =>
      exact preserves_declare _ _ _ _ fun _ valid => valid_declared valid _ _ _ location
  | addFunction name function => exact preserves_valid_addFunction name function
  | addConstant constant => exact preserves_valid_addConstant constant
  | addClass key location => exact preserves_valid_addClass key location
  | addEnum key location => exact preserves_valid_addEnum key location

theorem preserves_valid_absorb
    (incoming : Module) :
    Preserves joining.Valid incoming.absorb := by
  refine preserves_absorb incoming (fun _ location valid => valid_declared valid _ _ _ location)
    (fun _ imported valid => valid_flagged valid imported) (fun entity valid => ?_)
    fun edit => edit.preserves_valid
  obtain ⟨undeclared, classes, enums, functions, constants⟩ := valid_iff.mp valid
  exact valid_iff.mpr ⟨undeclared, classes, enums,
    Members.tidy_appendGroups functions incoming.functions, constants⟩

end Module

/-! ## Classes -/

namespace Class

theorem valid_declared
    {entity : Class}
    (valid : joining.Valid entity)
    (pythonName : String)
    (doc parentKey qualifiedName : Option String)
    (location : Location) :
    joining.Valid
      { entity with pythonName, doc, parentKey, qualifiedName, declaredAt := some location } :=
  valid_iff.mpr ⟨nofun, (valid_iff.mp valid).2⟩

theorem valid_renamed
    {entity : Class}
    (valid : joining.Valid entity)
    (declared : entity.declaredAt.isSome)
    (qualifiedName : Option String) :
    joining.Valid { entity with qualifiedName } :=
  valid_iff.mpr
    ⟨fun undeclared => absurd undeclared (Option.isSome_iff_ne_none.mp declared),
      (valid_iff.mp valid).2⟩

theorem valid_flagged
    {entity : Class}
    (valid : joining.Valid entity)
    (imported : Bool) :
    joining.Valid { entity with imported } :=
  valid_iff.mpr (valid_iff.mp valid)

theorem preserves_valid_addMethod
    (name : String)
    (method : Callable) :
    Preserves joining.Valid (addMethod name method) := by
  refine preserves_modify fun entity valid => ?_
  obtain ⟨undeclared, classes, enums, methods, others⟩ := valid_iff.mp valid
  exact valid_iff.mpr ⟨undeclared, classes, enums, Members.tidy_appendOverloads methods name _,
    others⟩

theorem preserves_valid_addConstructor
    (constructor : Callable) :
    Preserves joining.Valid (addConstructor constructor) :=
  preserves_modify fun _ valid => valid_iff.mpr (valid_iff.mp valid)

/-- A property that is given again may be completed in one half before the other is refused. -/
theorem preserves_valid_addProperty
    (property : Property) :
    Preserves joining.Valid (addProperty property) := by
  intro owner valid
  obtain ⟨undeclared, classes, enums, methods, properties, others⟩ := valid_iff.mp valid
  simp only [left, addProperty, Change.get_bind]
  cases found : owner.properties.get? property.name with
  | none =>
      exact valid_iff.mpr
        ⟨undeclared, classes, enums, methods, properties.insert trivial rfl, others⟩
  | some existing =>
      have named : existing.name = property.name :=
        Members.valid_property_iff.mp
          (properties.valid _ (Keyed.mem_of_get?_eq_some found))
      have completed :
          Preserves joining.Valid
            (onPart (fun _ => existing)
              (fun (owner : Class) (changed : Property) =>
                { owner with properties := owner.properties.insert property.name changed })
              (Property.absorb owner.shadowKey property)) := by
        have keepsName :
            Preserves (fun changed : Property => changed.name = property.name)
              (Property.absorb owner.shadowKey property) :=
          fun former same => (Property.name_left_absorb _ former property).trans same
        refine keepsName.onPart (fun _ _ => named) fun entity changed valid same => ?_
        obtain ⟨undeclared, classes, enums, methods, properties, others⟩ := valid_iff.mp valid
        exact valid_iff.mpr
          ⟨undeclared, classes, enums, methods, properties.insert trivial same, others⟩
      exact completed owner valid

theorem preserves_valid_addConstant
    (constant : Constant) :
    Preserves joining.Valid (addConstant constant) := by
  refine preserves_get_bind fun _ =>
    (Members.preserves_tidy_insertConstant _ constant).onPart ?_ ?_
  · exact fun entity valid => (valid_iff.mp valid).2.2.2.2.2.1
  · intro entity changed valid tidy
    obtain ⟨undeclared, classes, enums, methods, properties, _, sources⟩ := valid_iff.mp valid
    exact valid_iff.mpr ⟨undeclared, classes, enums, methods, properties, tidy, sources⟩

theorem preserves_valid_addClass
    (key : String)
    (location : Location) :
    Preserves joining.Valid (addClass key location) := by
  refine preserves_get_bind fun _ => (Members.preserves_tidy_place _ _ key location).onPart ?_ ?_
  · exact fun entity valid => (valid_iff.mp valid).2.1
  · intro entity changed valid tidy
    obtain ⟨undeclared, _, others⟩ := valid_iff.mp valid
    exact valid_iff.mpr ⟨undeclared, tidy, others⟩

theorem preserves_valid_addEnum
    (key : String)
    (location : Location) :
    Preserves joining.Valid (addEnum key location) := by
  refine preserves_get_bind fun _ => (Members.preserves_tidy_place _ _ key location).onPart ?_ ?_
  · exact fun entity valid => (valid_iff.mp valid).2.2.1
  · intro entity changed valid tidy
    obtain ⟨undeclared, classes, _, others⟩ := valid_iff.mp valid
    exact valid_iff.mpr ⟨undeclared, classes, tidy, others⟩

theorem preserves_valid_addImplicitSource
    (source : CppType) :
    Preserves joining.Valid (addImplicitSource source) := by
  refine preserves_modify fun entity valid => ?_
  obtain ⟨undeclared, classes, enums, methods, properties, constants, sources⟩ :=
    valid_iff.mp valid
  exact valid_iff.mpr ⟨undeclared, classes, enums, methods, properties, constants,
    Members.tidy_insertSource sources source⟩

theorem IsEdit.preserves_valid
    {change : Change Class Unit}
    (edit : IsEdit change) :
    Preserves joining.Valid change := by
  cases edit with
  | declare shadowKey pythonName doc parentKey location =>
      exact preserves_declare _ _ _ _ fun _ valid => valid_declared valid _ _ _ _ location
  | addMethod name method => exact preserves_valid_addMethod name method
  | addConstructor constructor => exact preserves_valid_addConstructor constructor
  | addProperty property => exact preserves_valid_addProperty property
  | addConstant constant => exact preserves_valid_addConstant constant
  | addClass key location => exact preserves_valid_addClass key location
  | addEnum key location => exact preserves_valid_addEnum key location
  | addImplicitSource source => exact preserves_valid_addImplicitSource source

theorem preserves_valid_absorb
    (incoming : Class) :
    Preserves joining.Valid incoming.absorb := by
  refine preserves_absorb incoming
    (fun _ location valid => valid_declared valid _ _ _ _ location)
    (fun _ imported valid => valid_flagged valid imported) (fun entity valid => ?_)
    fun edit => edit.preserves_valid
  obtain ⟨undeclared, classes, enums, methods, others⟩ := valid_iff.mp valid
  exact valid_iff.mpr ⟨undeclared, classes, enums,
    Members.tidy_appendGroups methods incoming.methods, others⟩

end Class

/-! ## Enums -/

namespace Enumeration

/-- An enum that is declared may say anything about itself. -/
theorem valid_of_declared
    {entity : Enumeration}
    (declared : entity.declaredAt.isSome) :
    joining.Valid entity :=
  valid_iff.mpr fun undeclared => absurd undeclared (Option.isSome_iff_ne_none.mp declared)

theorem valid_flagged
    {entity : Enumeration}
    (valid : joining.Valid entity)
    (imported : Bool) :
    joining.Valid { entity with imported } :=
  valid_iff.mpr (valid_iff.mp valid)

theorem preserves_valid_absorb
    (incoming : Enumeration) :
    Preserves joining.Valid incoming.absorb :=
  preserves_absorb incoming (fun _ _ _ => valid_of_declared rfl)
    fun _ imported valid => valid_flagged valid imported

end Enumeration

/-! ## Names -/

/-- Only what is declared is named, so that a property which names do not touch is kept. -/
theorem BindingModel.preserves_nameEntity
    {Entity : Type}
    {Holds : Entity → Prop}
    {naming : Nameable Entity}
    (keeps :
      ∀ entity given,
        Holds entity →
        (naming.declaredAt entity).isSome →
        Holds (naming.rename entity (some given)))
    (qualified : String → String)
    (undeclared : Fault)
    (key : String) :
    Preserves Holds (nameEntity naming qualified undeclared key) := by
  intro entity holds
  rw [left, Nameable.nameEntity_eq]
  cases declared : naming.declaredAt entity with
  | none => simpa [declared] using holds
  | some location =>
      have renamed := fun given => keeps entity given holds (by rw [declared]; rfl)
      cases named : naming.name entity with
      | none => simpa [declared, named] using renamed _
      | some existing =>
          by_cases same : existing = qualified (naming.pythonName entity)
          · simpa [declared, named, same] using holds
          · simpa [declared, named, same] using holds

end BindingStubs
