import BindingStubs.Proofs.Model.Entries
import BindingStubs.Proofs.Model.Preservation

namespace BindingStubs

namespace BindingModel

/-!
# Tables that mirror the lists

A lookup table mirrors a list of entities when it leads from the key of each entity to its
place and from no other key to anything, and no key occurs twice.  A model is indexed when its
four tables mirror its three lists.  Every registration and every merge keeps a model indexed,
also when it is refused halfway.
-/

open Change

/-- A table that leads from each of the given keys to its place, and from nothing else. -/
structure Mirrors
    {Key : Type}
    (position? : Key → Option Nat)
    (keys : List Key) : Prop where
  distinct : keys.Nodup
  leads : ∀ wanted position, position? wanted = some position ↔ keys[position]? = some wanted

/-- The tables of a model mirror its lists. -/
structure Indexed
    (model : BindingModel) : Prop where
  modules : Mirrors model.modulePositions.get? (model.modules.map Module.cppName)
  classes : Mirrors model.classPositions.get? (model.classes.map Class.shadowKey)
  classTypes : Mirrors model.classTypePosition? (model.classes.map Class.cppType)
  enums : Mirrors model.enumPositions.get? (model.enums.map Enumeration.cppName)

namespace Mirrors

variable {Key Entity : Type} {position? : Key → Option Nat} {keys : List Key}

/-- A table that finds the first place of each key mirrors distinct keys. -/
theorem of_findIdx?
    [DecidableEq Key]
    {key : Entity → Key}
    {entities : List Entity}
    (distinct : (entities.map key).Nodup)
    (finds : ∀ wanted, position? wanted = entities.findIdx? fun entity => key entity == wanted) :
    Mirrors position? (entities.map key) where
  distinct := distinct
  leads wanted position := by
    rw [finds, List.getElem?_map, Option.map_eq_some_iff]
    constructor
    · intro found
      obtain ⟨inRange, matched, _⟩ := List.findIdx?_eq_some_iff_getElem.mp found
      exact ⟨_, List.getElem?_eq_getElem inRange, by simpa using matched⟩
    · rintro ⟨entity, atPosition, rfl⟩
      obtain ⟨inRange, rfl⟩ := List.getElem?_eq_some_iff.mp atPosition
      refine List.findIdx?_eq_some_iff_getElem.mpr ⟨inRange, by simp, ?_⟩
      intro other earlier
      have differs := List.pairwise_iff_getElem.mp distinct other position
        (by simp; omega) (by simpa using inRange) earlier
      simpa using differs

/-- A key that leads nowhere is none of the keys. -/
theorem not_mem
    (mirrors : Mirrors position? keys)
    {wanted : Key}
    (absent : position? wanted = none) :
    wanted ∉ keys := by
  intro member
  obtain ⟨position, atPosition⟩ := List.mem_iff_getElem?.mp member
  rw [← mirrors.leads, absent] at atPosition
  cases atPosition

/-- What stands in a list with a new last element. -/
theorem getElem?_append_singleton_eq_some_iff
    {fresh wanted : Key}
    {position : Nat} :
    (keys ++ [fresh])[position]? = some wanted ↔
      keys[position]? = some wanted ∨ position = keys.length ∧ fresh = wanted := by
  rcases Nat.lt_trichotomy position keys.length with before | atEnd | behind
  · rw [List.getElem?_append_left before]
    simp [Nat.ne_of_lt before]
  · simp [atEnd]
  · rw [List.getElem?_eq_none (by simp; omega), List.getElem?_eq_none (by omega)]
    simp [Nat.ne_of_gt behind]

/-- A new key at the end is one more entry. -/
theorem append
    [DecidableEq Key]
    (mirrors : Mirrors position? keys)
    {fresh : Key}
    (absent : position? fresh = none)
    {extended? : Key → Option Nat}
    (extended :
      ∀ wanted,
        extended? wanted = if wanted = fresh then some keys.length else position? wanted) :
    Mirrors extended? (keys ++ [fresh]) where
  distinct := List.nodup_append.mpr
    ⟨mirrors.distinct, List.pairwise_singleton _ fresh, fun key member other isFresh same =>
      mirrors.not_mem absent (List.mem_singleton.mp isFresh ▸ same ▸ member)⟩
  leads wanted position := by
    rw [extended, getElem?_append_singleton_eq_some_iff, ← mirrors.leads]
    split
    · rename_i same
      rw [same, absent]
      simp [eq_comm]
    · rename_i differs
      simp [Ne.symm differs]

/-- A lookup through a table that mirrors the keys returns the one entity with the key. -/
theorem lookup_iff
    {key : Entity → Key}
    {entities : List Entity}
    (mirrors : Mirrors position? (entities.map key))
    {wanted : Key}
    {entity : Entity} :
    ((position? wanted).bind fun position => entities[position]?) = some entity ↔
      entity ∈ entities ∧ key entity = wanted := by
  simp only [Option.bind_eq_some_iff, mirrors.leads, List.getElem?_map, Option.map_eq_some_iff]
  constructor
  · rintro ⟨position, ⟨former, atFormer, rfl⟩, atPosition⟩
    rw [atPosition] at atFormer
    cases atFormer
    exact ⟨List.mem_of_getElem? atPosition, rfl⟩
  · rintro ⟨member, rfl⟩
    obtain ⟨position, atPosition⟩ := List.mem_iff_getElem?.mp member
    exact ⟨position, ⟨entity, atPosition, rfl⟩, atPosition⟩

end Mirrors

/-- Rebuilt tables mirror lists of entities with distinct keys. -/
theorem indexed_reindex
    {model : BindingModel}
    (modules : (model.modules.map Module.cppName).Nodup)
    (classes : (model.classes.map Class.shadowKey).Nodup)
    (classTypes : (model.classes.map Class.cppType).Nodup)
    (enums : (model.enums.map Enumeration.cppName).Nodup) :
    Indexed model.reindex where
  modules := .of_findIdx? modules (get?_positionsBy modules)
  classes := .of_findIdx? classes (get?_positionsBy classes)
  classTypes := .of_findIdx? classTypes (lookup_positionsByType classTypes)
  enums := .of_findIdx? enums (get?_positionsBy enums)

theorem indexed_empty : Indexed empty where
  modules := ⟨.nil, by simp [empty, Keyed.get?]⟩
  classes := ⟨.nil, by simp [empty, Keyed.get?]⟩
  classTypes := ⟨.nil, by simp [empty, classTypePosition?]⟩
  enums := ⟨.nil, by simp [empty, Keyed.get?]⟩

/-- Only the keys and the tables of a model decide whether it is indexed. -/
theorem Indexed.of_same_keys
    {before after : BindingModel}
    (indexed : Indexed before)
    (modules : after.modules.map Module.cppName = before.modules.map Module.cppName)
    (classes : after.classes.map Class.shadowKey = before.classes.map Class.shadowKey)
    (classTypes : after.classes.map Class.cppType = before.classes.map Class.cppType)
    (enums : after.enums.map Enumeration.cppName = before.enums.map Enumeration.cppName)
    (modulePositions : after.modulePositions = before.modulePositions)
    (classPositions : after.classPositions = before.classPositions)
    (classTypePositions : after.classTypePositions = before.classTypePositions)
    (enumPositions : after.enumPositions = before.enumPositions) :
    Indexed after where
  modules := by
    rw [modules, modulePositions]
    exact indexed.modules
  classes := by
    rw [classes, classPositions]
    exact indexed.classes
  classTypes := by
    have sameTable : after.classTypePosition? = before.classTypePosition? := by
      funext cppType
      rw [classTypePosition?, classTypePosition?, classTypePositions]
    rw [classTypes, sameTable]
    exact indexed.classTypes
  enums := by
    rw [enums, enumPositions]
    exact indexed.enums

/-! ## Entries -/

section Entries

variable {Holds : BindingModel → Prop}

/-- Entering a module keeps what a placeholder under a new name keeps. -/
theorem preserves_moduleEntry_of_new
    (cppName : String)
    (extended :
      ∀ {model : BindingModel},
        Holds model →
        model.modulePositions.get? cppName = none →
        Holds
          { model with
            modules := model.modules ++ [Module.placeholder cppName]
            modulePositions := model.modulePositions.insert cppName model.modules.length }) :
    Preserves Holds (moduleEntry cppName) := by
  intro model holds
  simp only [left, moduleEntry, Change.get_bind]
  cases found : model.modulePositions.get? cppName with
  | some position => exact holds
  | none => exact extended holds found

/-- Entering an enum keeps what a placeholder under a new name keeps. -/
theorem preserves_enumEntry_of_new
    (cppName : String)
    (extended :
      ∀ {model : BindingModel},
        Holds model →
        model.enumPositions.get? cppName = none →
        Holds
          { model with
            enums := model.enums ++ [Enumeration.placeholder cppName]
            enumPositions := model.enumPositions.insert cppName model.enums.length }) :
    Preserves Holds (enumEntry cppName) := by
  intro model holds
  simp only [left, enumEntry, Change.get_bind]
  cases found : model.enumPositions.get? cppName with
  | some position => exact holds
  | none => exact extended holds found

/-- A class that is known under one of its keys is not entered again. -/
theorem left_classEntry_of_known
    {shadowKey : String}
    {cppType : CppType}
    (location : Location)
    {model : BindingModel}
    (known :
      model.classPositions.get? shadowKey ≠ none ∨ model.classTypePosition? cppType ≠ none) :
    left (classEntry shadowKey cppType location) model = model := by
  simp only [left, classEntry, Change.get_bind]
  cases byKey : model.classPositions.get? shadowKey with
  | some position =>
      cases byType : model.classTypePosition? cppType with
      | some other =>
          by_cases same : position = other
          · simp only [if_pos same]
            rfl
          · simp only [if_neg same]
            rfl
      | none => rfl
  | none =>
      cases byType : model.classTypePosition? cppType with
      | some other => rfl
      | none => simp [byKey, byType] at known

/-- Entering a class keeps what a placeholder under two new keys keeps. -/
theorem preserves_classEntry_of_new
    (shadowKey : String)
    (cppType : CppType)
    (location : Location)
    (extended :
      ∀ {model : BindingModel},
        Holds model →
        model.classPositions.get? shadowKey = none →
        model.classTypePosition? cppType = none →
        Holds
          { model with
            classes := model.classes ++ [Class.placeholder shadowKey cppType]
            classPositions := model.classPositions.insert shadowKey model.classes.length
            classTypePositions := (cppType, model.classes.length) :: model.classTypePositions }) :
    Preserves Holds (classEntry shadowKey cppType location) := by
  intro model holds
  by_cases known :
    model.classPositions.get? shadowKey ≠ none ∨ model.classTypePosition? cppType ≠ none
  · rwa [left_classEntry_of_known location known]
  · obtain ⟨byKey, byType⟩ : model.classPositions.get? shadowKey = none ∧
        model.classTypePosition? cppType = none := by
      simpa [not_or] using known
    rw [left_of_ok (classEntry_of_absent location byKey byType)]
    exact extended holds byKey byType

end Entries

theorem preserves_indexed_moduleEntry
    (cppName : String) :
    Preserves Indexed (moduleEntry cppName) := by
  refine preserves_moduleEntry_of_new cppName fun indexed absent => ?_
  refine { indexed with modules := ?_ }
  rw [List.map_append]
  refine indexed.modules.append absent fun wanted => ?_
  rw [Keyed.get?_insert, List.length_map]

theorem preserves_indexed_enumEntry
    (cppName : String) :
    Preserves Indexed (enumEntry cppName) := by
  refine preserves_enumEntry_of_new cppName fun indexed absent => ?_
  refine { indexed with enums := ?_ }
  rw [List.map_append]
  refine indexed.enums.append absent fun wanted => ?_
  rw [Keyed.get?_insert, List.length_map]

/-- A class is entered under both its keys or under none. -/
theorem preserves_indexed_classEntry
    (shadowKey : String)
    (cppType : CppType)
    (location : Location) :
    Preserves Indexed (classEntry shadowKey cppType location) := by
  refine preserves_classEntry_of_new shadowKey cppType location fun indexed byKey byType => ?_
  refine { indexed with classes := ?_, classTypes := ?_ }
  · rw [List.map_append]
    refine indexed.classes.append byKey fun wanted => ?_
    rw [Keyed.get?_insert, List.length_map]
  · rw [List.map_append]
    refine indexed.classTypes.append byType fun wanted => ?_
    rw [classTypePosition?, List.lookup_cons, List.length_map]
    by_cases same : wanted = cppType
    · simp [same]
    · have unmatched : (wanted == cppType) = false := by simpa using same
      simp [same, unmatched, classTypePosition?]

/-! ## Changes of entities -/

section Entities

variable {Entity Key Result : Type}

/-- A change that does not change the key of an entity. -/
def Keeps
    (key : Entity → Key)
    (change : Change Entity Result) :
    Prop :=
  ∀ kept, Preserves (fun entity => key entity = kept) change

/-- Changing one entity keeps the keys of all. -/
theorem Keeps.map_set
    {key : Entity → Key}
    {change : Change Entity Result}
    (keeps : Keeps key change)
    {entities : List Entity}
    {position : Nat}
    {entity : Entity}
    (found : entities[position]? = some entity) :
    (entities.set position (left change entity)).map key = entities.map key :=
  map_set_of_same_key found (keeps (key entity) entity rfl)

/-- What is left of a model when one entity is changed. -/
theorem left_changeAt
    (entities : List Entity)
    (position : Nat)
    (rebuild : List Entity → BindingModel)
    (change : Change Entity Result) :
    left (fun _ => changeAt entities position rebuild change) (rebuild entities) =
      match entities[position]? with
      | none => rebuild entities
      | some entity => rebuild (entities.set position (left change entity)) := by
  cases found : entities[position]? with
  | none => simp [left, changeAt, found]
  | some entity => cases outcome : change entity <;> simp [left, changeAt, found, outcome]

end Entities

/-! ## Properties of a model of which one entity is changed -/

section OneEntity

variable {Holds : BindingModel → Prop} {Result : Type}

theorem preserves_onModule
    (position : Nat)
    {change : Change Module Result}
    (keeps :
      ∀ {model : BindingModel} {entity},
        Holds model →
        model.modules[position]? = some entity →
        Holds { model with modules := model.modules.set position (left change entity) }) :
    Preserves Holds (onModule position change) := by
  intro model holds
  have reached :=
    left_changeAt model.modules position (fun modules => { model with modules }) change
  change left (onModule position change) model = _ at reached
  rw [reached]
  cases found : model.modules[position]? with
  | none => exact holds
  | some entity => exact keeps holds found

theorem preserves_onClass
    (position : Nat)
    {change : Change Class Result}
    (keeps :
      ∀ {model : BindingModel} {entity},
        Holds model →
        model.classes[position]? = some entity →
        Holds { model with classes := model.classes.set position (left change entity) }) :
    Preserves Holds (onClass position change) := by
  intro model holds
  have reached :=
    left_changeAt model.classes position (fun classes => { model with classes }) change
  change left (onClass position change) model = _ at reached
  rw [reached]
  cases found : model.classes[position]? with
  | none => exact holds
  | some entity => exact keeps holds found

theorem preserves_onEnum
    (position : Nat)
    {change : Change Enumeration Result}
    (keeps :
      ∀ {model : BindingModel} {entity},
        Holds model →
        model.enums[position]? = some entity →
        Holds { model with enums := model.enums.set position (left change entity) }) :
    Preserves Holds (onEnum position change) := by
  intro model holds
  have reached := left_changeAt model.enums position (fun enums => { model with enums }) change
  change left (onEnum position change) model = _ at reached
  rw [reached]
  cases found : model.enums[position]? with
  | none => exact holds
  | some entity => exact keeps holds found

end OneEntity

/-! ## Properties that do not depend on the entities of one kind -/

section Unaffected

variable {Holds : BindingModel → Prop}

theorem preserves_moduleEntry
    (unaffected :
      ∀ model modules modulePositions,
        Holds model → Holds { model with modules, modulePositions })
    (cppName : String) :
    Preserves Holds (moduleEntry cppName) :=
  preserves_moduleEntry_of_new cppName fun holds _ => unaffected _ _ _ holds

theorem preserves_enumEntry
    (unaffected :
      ∀ model enums enumPositions,
        Holds model → Holds { model with enums, enumPositions })
    (cppName : String) :
    Preserves Holds (enumEntry cppName) :=
  preserves_enumEntry_of_new cppName fun holds _ => unaffected _ _ _ holds

theorem preserves_classEntry
    (unaffected :
      ∀ model classes classPositions classTypePositions,
        Holds model → Holds { model with classes, classPositions, classTypePositions })
    (shadowKey : String)
    (cppType : CppType)
    (location : Location) :
    Preserves Holds (classEntry shadowKey cppType location) :=
  preserves_classEntry_of_new shadowKey cppType location fun holds _ _ => unaffected _ _ _ _ holds

/-- What does not depend on modules is kept when a module is changed. -/
theorem preserves_inModule
    (unaffected :
      ∀ model modules modulePositions,
        Holds model → Holds { model with modules, modulePositions })
    (cppName : String)
    (change : Change Module Unit) :
    Preserves Holds (inModule cppName change) := by
  refine (preserves_moduleEntry unaffected cppName).bind fun position => ?_
  exact preserves_onModule position fun holds _ => unaffected _ _ _ holds

/-- What does not depend on classes is kept when a class is changed. -/
theorem preserves_inClass
    (unaffected :
      ∀ model classes classPositions classTypePositions,
        Holds model → Holds { model with classes, classPositions, classTypePositions })
    (shadowKey : String)
    (cppType : CppType)
    (location : Location)
    (change : Change Class Unit) :
    Preserves Holds (inClass shadowKey cppType location change) := by
  refine (preserves_classEntry unaffected shadowKey cppType location).bind fun position => ?_
  exact preserves_onClass position fun holds _ => unaffected _ _ _ _ holds

/-- What does not depend on enums is kept when an enum is changed. -/
theorem preserves_inEnum
    (unaffected :
      ∀ model enums enumPositions,
        Holds model → Holds { model with enums, enumPositions })
    (cppName : String)
    (change : Change Enumeration Unit) :
    Preserves Holds (inEnum cppName change) := by
  refine (preserves_enumEntry unaffected cppName).bind fun position => ?_
  exact preserves_onEnum position fun holds _ => unaffected _ _ _ holds

end Unaffected

/-! ## Changes keep models indexed -/

theorem preserves_indexed_onModule
    {Result : Type}
    (position : Nat)
    {change : Change Module Result}
    (keeps : Keeps Module.cppName change) :
    Preserves Indexed (onModule position change) :=
  preserves_onModule position fun indexed found =>
    indexed.of_same_keys (keeps.map_set found) rfl rfl rfl rfl rfl rfl rfl

theorem preserves_indexed_onEnum
    {Result : Type}
    (position : Nat)
    {change : Change Enumeration Result}
    (keeps : Keeps Enumeration.cppName change) :
    Preserves Indexed (onEnum position change) :=
  preserves_onEnum position fun indexed found =>
    indexed.of_same_keys rfl rfl rfl (keeps.map_set found) rfl rfl rfl rfl

theorem preserves_indexed_onClass
    {Result : Type}
    (position : Nat)
    {change : Change Class Result}
    (keeps : Keeps Class.keys change) :
    Preserves Indexed (onClass position change) := by
  refine preserves_onClass position fun indexed found => ?_
  have sameKeys := keeps.map_set found
  refine indexed.of_same_keys rfl ?_ ?_ rfl rfl rfl rfl rfl
  · simpa [Function.comp_def, Class.keys] using congrArg (List.map Prod.fst) sameKeys
  · simpa [Function.comp_def, Class.keys] using congrArg (List.map Prod.snd) sameKeys

theorem preserves_indexed_inModule
    (cppName : String)
    {change : Change Module Unit}
    (keeps : Keeps Module.cppName change) :
    Preserves Indexed (inModule cppName change) :=
  (preserves_indexed_moduleEntry cppName).bind fun position =>
    preserves_indexed_onModule position keeps

theorem preserves_indexed_inEnum
    (cppName : String)
    {change : Change Enumeration Unit}
    (keeps : Keeps Enumeration.cppName change) :
    Preserves Indexed (inEnum cppName change) :=
  (preserves_indexed_enumEntry cppName).bind fun position =>
    preserves_indexed_onEnum position keeps

theorem preserves_indexed_inClass
    (shadowKey : String)
    (cppType : CppType)
    (location : Location)
    {change : Change Class Unit}
    (keeps : Keeps Class.keys change) :
    Preserves Indexed (inClass shadowKey cppType location change) :=
  (preserves_indexed_classEntry shadowKey cppType location).bind fun position =>
    preserves_indexed_onClass position keeps

/-- Adding a rule changes nothing but the rules. -/
theorem left_addRule
    (rule : TypeRule)
    (model : BindingModel) :
    ∃ rules, left (addRule rule) model = { model with rules } := by
  simp only [left, addRule, Change.get_bind]
  cases findSamePattern? rule ((model.rules.get? rule.bucketKey).getD []) with
  | none => exact ⟨_, rfl⟩
  | some existing =>
      by_cases same : existing.canonicalForm = rule.canonicalForm
      · simp only [if_pos same]
        exact ⟨model.rules, rfl⟩
      · simp only [if_neg same]
        exact ⟨model.rules, rfl⟩

/-- A rule that is refused changes nothing. -/
theorem left_addRule_eq
    (rule : TypeRule)
    (model : BindingModel) :
    left (addRule rule) model = (after? (addRule rule) model).getD model := by
  simp only [left, after?, addRule, Change.get_bind]
  cases findSamePattern? rule ((model.rules.get? rule.bucketKey).getD []) with
  | none => rfl
  | some existing =>
      by_cases same : existing.canonicalForm = rule.canonicalForm
      · simp only [if_pos same]
        rfl
      · simp only [if_neg same]
        rfl

theorem preserves_indexed_addRule
    (rule : TypeRule) :
    Preserves Indexed (addRule rule) := by
  intro model indexed
  obtain ⟨rules, reached⟩ := left_addRule rule model
  rw [reached]
  exact indexed.of_same_keys rfl rfl rfl rfl rfl rfl rfl rfl

end BindingModel

/-! ## Changes that keep the keys -/

open BindingModel Change

namespace Module

theorem IsEdit.keeps_cppName
    {change : Change Module Unit}
    (edit : IsEdit change) :
    Keeps cppName change := by
  intro kept
  cases edit with
  | declare => exact preserves_declare _ _ _ _ fun _ same => same
  | addFunction => exact preserves_modify fun _ same => same
  | addConstant | addClass | addEnum =>
      exact preserves_get_bind fun _ => preserves_onPart _ fun _ _ same => same

theorem keeps_absorb
    (incoming : Module) :
    Keeps cppName incoming.absorb :=
  fun kept =>
    preserves_absorb incoming (fun _ _ same => same) (fun _ _ same => same)
      (fun _ same => same) fun edit => edit.keeps_cppName kept

end Module

namespace Class

section View

variable
  {View : Type}
  {view : Class → View}

/-- What does not depend on the properties is kept when one is added or completed. -/
theorem keeps_addProperty
    (property : Property)
    (unaffected :
      ∀ owner properties, view { owner with properties } = view owner := by intros; rfl) :
    Keeps view (addProperty property) := by
  intro kept owner same
  simp only [left, addProperty, Change.get_bind]
  cases owner.properties.get? property.name with
  | none => exact (unaffected _ _).trans same
  | some existing =>
      have completed :
          Preserves (fun entity : Class => view entity = kept)
            (onPart (fun _ => existing)
              (fun (owner : Class) (changed : Property) =>
                { owner with properties := owner.properties.insert property.name changed })
              (Property.absorb owner.shadowKey property)) :=
        preserves_onPart _ fun _ _ same => (unaffected _ _).trans same
      exact completed owner same

theorem keeps_addConstant
    (constant : Constant)
    (unaffected :
      ∀ owner constants, view { owner with constants } = view owner := by intros; rfl) :
    Keeps view (addConstant constant) :=
  fun _ => preserves_get_bind fun _ =>
    preserves_onPart _ fun _ _ same => (unaffected _ _).trans same

theorem keeps_addClass
    (key : String)
    (location : Location)
    (unaffected :
      ∀ owner innerClasses, view { owner with innerClasses } = view owner := by intros; rfl) :
    Keeps view (addClass key location) :=
  fun _ => preserves_get_bind fun _ =>
    preserves_onPart _ fun _ _ same => (unaffected _ _).trans same

theorem keeps_addEnum
    (key : String)
    (location : Location)
    (unaffected :
      ∀ owner innerEnums, view { owner with innerEnums } = view owner := by intros; rfl) :
    Keeps view (addEnum key location) :=
  fun _ => preserves_get_bind fun _ =>
    preserves_onPart _ fun _ _ same => (unaffected _ _).trans same

theorem keeps_addImplicitSource
    (source : CppType)
    (unaffected :
      ∀ owner implicitSources, view { owner with implicitSources } = view owner := by
        intros; rfl) :
    Keeps view (addImplicitSource source) :=
  fun _ => preserves_modify fun _ same => (unaffected _ _).trans same

end View

theorem IsEdit.keeps_keys
    {change : Change Class Unit}
    (edit : IsEdit change) :
    Keeps keys change := by
  cases edit with
  | declare => exact fun _ => preserves_declare _ _ _ _ fun _ same => same
  | addMethod | addConstructor => exact fun _ => preserves_modify fun _ same => same
  | addProperty property => exact keeps_addProperty property
  | addConstant constant => exact keeps_addConstant constant
  | addClass key location => exact keeps_addClass key location
  | addEnum key location => exact keeps_addEnum key location
  | addImplicitSource source => exact keeps_addImplicitSource source

theorem keeps_absorb
    (incoming : Class) :
    Keeps keys incoming.absorb :=
  fun kept =>
    preserves_absorb incoming (fun _ _ same => same) (fun _ _ same => same)
      (fun _ same => same) fun edit => edit.keeps_keys kept

end Class

theorem Enumeration.keeps_absorb
    (incoming : Enumeration) :
    Keeps cppName incoming.absorb :=
  fun _ => preserves_absorb incoming (fun _ _ same => same) fun _ _ same => same

/-! ## Registrations and merging -/

/-- A registration keeps a model indexed, also when it is refused. -/
theorem Registration.preserves_indexed_perform
    (registration : Registration) :
    Preserves Indexed registration.perform := by
  refine registration.preserves_perform preserves_indexed_moduleEntry
    preserves_indexed_classEntry preserves_indexed_enumEntry ?_ ?_ ?_ ?_
  · exact fun cppName _ edit => preserves_indexed_inModule cppName edit.keeps_cppName
  · exact fun shadowKey cppType location _ edit =>
      preserves_indexed_inClass shadowKey cppType location edit.keeps_keys
  · exact fun cppName _ _ _ _ _ => preserves_indexed_inEnum cppName fun _ =>
      preserves_declare _ _ _ _ fun _ same => same
  · exact fun rule _ => preserves_indexed_addRule rule

/-- Merging keeps a model indexed, whatever is merged and wherever it is refused. -/
theorem BindingModel.preserves_indexed_merge
    (incoming : BindingModel) :
    Preserves Indexed incoming.merge := by
  refine preserves_merge ?_ ?_ ?_ fun rule _ => preserves_indexed_addRule rule
  · exact fun entity _ => preserves_indexed_inModule _ entity.keeps_absorb
  · exact fun entity _ => preserves_indexed_inClass _ _ _ entity.keeps_absorb
  · exact fun entity _ => preserves_indexed_inEnum _ entity.keeps_absorb

end BindingStubs
