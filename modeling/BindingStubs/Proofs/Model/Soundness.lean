import BindingStubs.Proofs.Model.FragmentOrder
import BindingStubs.Proofs.Model.Reachable
import BindingStubs.Proofs.Model.Rereading
import BindingStubs.Proofs.Model.Validity

namespace BindingStubs

/-!
# Every reachable model is sound

A sound model is determined by its valid contents.  Registrations, merges and the assignment of
names change one entity after another, each of which stays valid and keeps its keys; flagging
entities as imported, dropping them and reading them back touches nothing that validity depends on.
Whether or not a step is refused, the model that it leaves behind is sound.
-/

/-- Valid items stay tidy while what decides whether they meet stays the same. -/
theorem Joining.Tidy.of_same_keys
    {Item Key : Type}
    {joining : Joining Item}
    {items changed : List Item}
    (tidy : joining.Tidy items)
    (key : Item → Key)
    (overlaps : Key → Key → Bool)
    (meets_eq : ∀ first second, joining.meets first second = overlaps (key first) (key second))
    (sameKeys : changed.map key = items.map key)
    (valid : ∀ item ∈ changed, joining.Valid item) :
    joining.Tidy changed where
  valid := valid
  apart := by
    have apart : (items.map key).Pairwise fun first second => overlaps first second = false :=
      List.pairwise_map.mpr (tidy.apart.imp fun apart => (meets_eq _ _).symm.trans apart)
    rw [← sameKeys, List.pairwise_map] at apart
    exact apart.imp fun apart => (meets_eq _ _).trans apart

theorem Joining.Tidy.sublist
    {Item : Type}
    {joining : Joining Item}
    {items fewer : List Item}
    (tidy : joining.Tidy items)
    (sublist : fewer.Sublist items) :
    joining.Tidy fewer :=
  ⟨fun item member => tidy.valid item (sublist.subset member), tidy.apart.sublist sublist⟩

/-- An item may be replaced by a valid one. -/
theorem Joining.Tidy.valid_set
    {Item : Type}
    {joining : Joining Item}
    {items : List Item}
    (tidy : joining.Tidy items)
    (position : Nat)
    {changed : Item}
    (valid : joining.Valid changed) :
    ∀ item ∈ items.set position changed, joining.Valid item := by
  intro item member
  rcases List.mem_or_eq_of_mem_set member with former | rfl
  · exact tidy.valid item former
  · exact valid

theorem Module.tidy_of_same_keys
    {modules changed : List Module}
    (tidy : joining.Tidy modules)
    (sameKeys : changed.map cppName = modules.map cppName)
    (valid : ∀ entity ∈ changed, joining.Valid entity) :
    joining.Tidy changed :=
  tidy.of_same_keys cppName (· == ·) (fun _ _ => rfl) sameKeys valid

theorem Class.tidy_of_same_keys
    {classes changed : List Class}
    (tidy : joining.Tidy classes)
    (sameKeys : changed.map keys = classes.map keys)
    (valid : ∀ entity ∈ changed, joining.Valid entity) :
    joining.Tidy changed :=
  tidy.of_same_keys keys sharesKey (fun _ _ => rfl) sameKeys valid

theorem Enumeration.tidy_of_same_keys
    {enums changed : List Enumeration}
    (tidy : joining.Tidy enums)
    (sameKeys : changed.map cppName = enums.map cppName)
    (valid : ∀ entity ∈ changed, joining.Valid entity) :
    joining.Tidy changed :=
  tidy.of_same_keys cppName (· == ·) (fun _ _ => rfl) sameKeys valid

namespace BindingModel

open Change

/-- The tables of a model depend on the keys only, and are theirs if they were before. -/
theorem reindex_eq_of_same_keys
    {model changed : BindingModel}
    (rebuilt : model.reindex = model)
    (modules : changed.modules.map Module.cppName = model.modules.map Module.cppName)
    (classes : changed.classes.map Class.shadowKey = model.classes.map Class.shadowKey)
    (classTypes : changed.classes.map Class.cppType = model.classes.map Class.cppType)
    (enums : changed.enums.map Enumeration.cppName = model.enums.map Enumeration.cppName)
    (sameModules : changed.modulePositions = model.modulePositions)
    (sameClasses : changed.classPositions = model.classPositions)
    (sameTypes : changed.classTypePositions = model.classTypePositions)
    (sameEnums : changed.enumPositions = model.enumPositions) :
    changed.reindex = changed := by
  have moduleTable := congrArg modulePositions rebuilt
  have classTable := congrArg classPositions rebuilt
  have typeTable := congrArg classTypePositions rebuilt
  have enumTable := congrArg enumPositions rebuilt
  simp only [reindex] at moduleTable classTable typeTable enumTable
  rw [reindex, positionsBy_congr modules, positionsBy_congr classes,
    positionsByType_congr classTypes, positionsBy_congr enums, moduleTable, classTable, typeTable,
    enumTable, ← sameModules, ← sameClasses, ← sameTypes, ← sameEnums]

theorem Sound.reindex_eq
    {model : BindingModel}
    (sound : model.Sound) :
    model.reindex = model :=
  sound.rebuilt

theorem sound_of_reindex_eq
    {model : BindingModel}
    (valid : contents.Valid model.contentsOf)
    (rebuilt : model.reindex = model) :
    model.Sound :=
  ⟨valid, rebuilt⟩

/-! ## Entries and rules -/

/-- A change that adds contents, or is refused as a whole, keeps models sound. -/
theorem preserves_sound_of_contributes
    {Result : Type}
    {change : Registering Result}
    {part : Contents}
    (contributes : Contributes (discard change) part)
    (refused : ∀ model, after? change model = none → left change model = model) :
    Preserves Sound change := by
  intro model sound
  have reached := contributes.after? sound.valid
  rw [after?_discard, sound.rebuilt] at reached
  cases combined : contents.combine? model.contentsOf part with
  | none =>
      rw [combined] at reached
      rwa [refused model reached]
  | some whole =>
      rw [combined, Option.map_some] at reached
      rw [left_of_after? reached]
      exact sound_ofContents (lawful_contents.closed sound.valid contributes.valid combined)

theorem preserves_sound_moduleEntry
    (cppName : String) :
    Preserves Sound (moduleEntry cppName) := by
  refine preserves_sound_of_contributes (contributes_moduleEntry cppName) fun model refused => ?_
  rw [moduleEntry, after?_get_bind] at refused
  cases found : model.modulePositions.get? cppName with
  | none =>
      rw [found] at refused
      cases refused
  | some position =>
      rw [found] at refused
      cases refused

theorem preserves_sound_classEntry
    (shadowKey : String)
    (cppType : CppType)
    (location : Location) :
    Preserves Sound (classEntry shadowKey cppType location) := by
  refine preserves_sound_of_contributes (contributes_classEntry shadowKey cppType location)
    fun model refused => left_classEntry_of_known location ?_
  by_contra unknown
  obtain ⟨byKey, byType⟩ := not_or.mp unknown
  rw [after?_of_ok (classEntry_of_absent location (not_not.mp byKey) (not_not.mp byType))]
    at refused
  cases refused

theorem preserves_sound_enumEntry
    (cppName : String) :
    Preserves Sound (enumEntry cppName) := by
  refine preserves_sound_of_contributes (contributes_enumEntry cppName) fun model refused => ?_
  rw [enumEntry, after?_get_bind] at refused
  cases found : model.enumPositions.get? cppName with
  | none =>
      rw [found] at refused
      cases refused
  | some position =>
      rw [found] at refused
      cases refused

theorem preserves_sound_addRule
    (rule : TypeRule) :
    Preserves Sound (addRule rule) := by
  have contributes : Contributes (discard (addRule rule)) _ :=
    { valid := (contributes_addRule rule).valid
      after? := fun valid => by
        rw [after?_discard]
        exact (contributes_addRule rule).after? valid }
  refine preserves_sound_of_contributes contributes fun model refused => ?_
  rw [left_addRule_eq, refused, Option.getD_none]

/-! ## Changes of entities -/

theorem preserves_sound_onModule
    {Result : Type}
    (position : Nat)
    {change : Change Module Result}
    (keeps : Keeps Module.cppName change)
    (valid : Preserves Module.joining.Valid change) :
    Preserves Sound (onModule position change) := by
  refine preserves_onModule position fun sound found => ?_
  obtain ⟨modules, classes, enums, rules⟩ := valid_contents_iff.mp sound.valid
  have sameKeys := keeps.map_set found
  have changedValid := valid _ (modules.valid _ (List.mem_of_getElem? found))
  have changedModules :=
    Module.tidy_of_same_keys modules sameKeys (modules.valid_set position changedValid)
  refine sound_of_reindex_eq ?_ ?_
  · exact valid_contents_iff.mpr ⟨changedModules, classes, enums, rules⟩
  · exact reindex_eq_of_same_keys sound.reindex_eq sameKeys rfl rfl rfl rfl rfl rfl rfl

theorem preserves_sound_onClass
    {Result : Type}
    (position : Nat)
    {change : Change Class Result}
    (keeps : Keeps Class.keys change)
    (valid : Preserves Class.joining.Valid change) :
    Preserves Sound (onClass position change) := by
  refine preserves_onClass position fun sound found => ?_
  obtain ⟨modules, classes, enums, rules⟩ := valid_contents_iff.mp sound.valid
  have sameKeys := keeps.map_set found
  have changedValid := valid _ (classes.valid _ (List.mem_of_getElem? found))
  have changedClasses :=
    Class.tidy_of_same_keys classes sameKeys (classes.valid_set position changedValid)
  refine sound_of_reindex_eq ?_ ?_
  · exact valid_contents_iff.mpr ⟨modules, changedClasses, enums, rules⟩
  · refine reindex_eq_of_same_keys sound.reindex_eq rfl ?_ ?_ rfl rfl rfl rfl rfl
    · simpa [Function.comp_def, Class.keys] using congrArg (List.map Prod.fst) sameKeys
    · simpa [Function.comp_def, Class.keys] using congrArg (List.map Prod.snd) sameKeys

theorem preserves_sound_onEnum
    {Result : Type}
    (position : Nat)
    {change : Change Enumeration Result}
    (keeps : Keeps Enumeration.cppName change)
    (valid : Preserves Enumeration.joining.Valid change) :
    Preserves Sound (onEnum position change) := by
  refine preserves_onEnum position fun sound found => ?_
  obtain ⟨modules, classes, enums, rules⟩ := valid_contents_iff.mp sound.valid
  have sameKeys := keeps.map_set found
  have changedValid := valid _ (enums.valid _ (List.mem_of_getElem? found))
  have changedEnums :=
    Enumeration.tidy_of_same_keys enums sameKeys (enums.valid_set position changedValid)
  refine sound_of_reindex_eq ?_ ?_
  · exact valid_contents_iff.mpr ⟨modules, classes, changedEnums, rules⟩
  · exact reindex_eq_of_same_keys sound.reindex_eq rfl rfl rfl sameKeys rfl rfl rfl rfl

theorem preserves_sound_inModule
    (cppName : String)
    {change : Change Module Unit}
    (keeps : Keeps Module.cppName change)
    (valid : Preserves Module.joining.Valid change) :
    Preserves Sound (inModule cppName change) :=
  (preserves_sound_moduleEntry cppName).bind fun position =>
    preserves_sound_onModule position keeps valid

theorem preserves_sound_inClass
    (shadowKey : String)
    (cppType : CppType)
    (location : Location)
    {change : Change Class Unit}
    (keeps : Keeps Class.keys change)
    (valid : Preserves Class.joining.Valid change) :
    Preserves Sound (inClass shadowKey cppType location change) :=
  (preserves_sound_classEntry shadowKey cppType location).bind fun position =>
    preserves_sound_onClass position keeps valid

theorem preserves_sound_inEnum
    (cppName : String)
    {change : Change Enumeration Unit}
    (keeps : Keeps Enumeration.cppName change)
    (valid : Preserves Enumeration.joining.Valid change) :
    Preserves Sound (inEnum cppName change) :=
  (preserves_sound_enumEntry cppName).bind fun position =>
    preserves_sound_onEnum position keeps valid

/-! ## Registrations and merges -/

/-- A registration keeps a model sound, also when it is refused. -/
theorem preserves_sound_perform
    (registration : Registration) :
    Preserves Sound registration.perform := by
  refine registration.preserves_perform preserves_sound_moduleEntry preserves_sound_classEntry
    preserves_sound_enumEntry ?_ ?_ ?_ ?_
  · exact fun cppName _ edit =>
      preserves_sound_inModule cppName edit.keeps_cppName edit.preserves_valid
  · exact fun shadowKey cppType location _ edit =>
      preserves_sound_inClass shadowKey cppType location edit.keeps_keys edit.preserves_valid
  · intro cppName pythonName doc values location _
    refine preserves_sound_inEnum cppName (fun _ => ?_) ?_
    · exact preserves_declare _ _ _ _ fun _ same => same
    · exact preserves_declare _ _ _ _ fun _ _ => Enumeration.valid_of_declared rfl
  · exact fun rule _ => preserves_sound_addRule rule

/-- Merging keeps a model sound, whatever is merged and wherever it is refused. -/
theorem preserves_sound_merge
    (incoming : BindingModel) :
    Preserves Sound incoming.merge := by
  refine preserves_merge ?_ ?_ ?_ fun rule _ => preserves_sound_addRule rule
  · exact fun entity _ =>
      preserves_sound_inModule _ entity.keeps_absorb entity.preserves_valid_absorb
  · exact fun entity _ =>
      preserves_sound_inClass _ _ _ entity.keeps_absorb entity.preserves_valid_absorb
  · exact fun entity _ =>
      preserves_sound_inEnum _ entity.keeps_absorb entity.preserves_valid_absorb

/-! ## Names -/

theorem preserves_sound_nameEnum
    (scope key : String) :
    Preserves Sound (nameEnum scope key) := by
  refine preserves_get_bind fun model => ?_
  cases model.enumPositions.get? key with
  | none => exact preserves_throw _
  | some position =>
      refine Preserves.bind (preserves_sound_onEnum position ?_ ?_) fun _ => preserves_pure ()
      · exact fun _ => preserves_nameEntity (fun _ _ same _ => same) _ _ _
      · exact preserves_nameEntity
          (fun _ _ _ declared => Enumeration.valid_of_declared declared) _ _ _

theorem preserves_sound_nameClass
    (scope key : String) :
    Preserves Sound (nameClass scope key) := by
  refine preserves_get_bind fun model => ?_
  cases model.classPositions.get? key with
  | none => exact preserves_throw _
  | some position =>
      refine preserves_sound_onClass position (fun _ => ?_) ?_
      · refine Preserves.bind (preserves_nameEntity (fun _ _ same _ => same) _ _ _) fun _ => ?_
        exact preserves_get_bind fun _ => preserves_pure _
      · refine Preserves.bind (preserves_nameEntity ?_ _ _ _) fun _ => ?_
        · exact fun _ given valid declared => Class.valid_renamed valid declared (some given)
        · exact preserves_get_bind fun _ => preserves_pure _

theorem preserves_sound_nameMembers
    {exhausted : String → Registering Unit}
    (exhaustedKeeps : ∀ scope, Preserves Sound (exhausted scope))
    (levels : Nat)
    (named : NamedScope) :
    Preserves Sound (nameMembers exhausted levels named) := by
  induction levels generalizing named with
  | zero => exact exhaustedKeeps named.scope
  | succ levels inductionHypothesis =>
      refine Preserves.bind
        (preserves_forAll fun key _ => preserves_sound_nameEnum named.scope key) fun _ => ?_
      exact preserves_forAll fun key _ =>
        (preserves_sound_nameClass named.scope key).bind inductionHypothesis

theorem preserves_sound_nameModules
    (package : Option String)
    (positions : List Nat) :
    Preserves Sound (nameModules package positions) := by
  induction positions with
  | nil => exact preserves_pure _
  | cons position rest inductionHypothesis =>
      refine Preserves.bind (preserves_sound_onModule position (fun _ => ?_) ?_) fun _ =>
        inductionHypothesis.bind fun _ => preserves_pure _
      · refine preserves_get_bind fun _ => ?_
        refine Preserves.bind (preserves_nameEntity (fun _ _ same _ => same) _ _ _) fun _ => ?_
        exact preserves_get_bind fun _ => preserves_pure _
      · refine preserves_get_bind fun _ => ?_
        refine Preserves.bind (preserves_nameEntity ?_ _ _ _) fun _ => ?_
        · exact fun _ given valid declared => Module.valid_renamed valid declared (some given)
        · exact preserves_get_bind fun _ => preserves_pure _

/-- The assignment of names keeps a model sound, wherever it is refused. -/
theorem preserves_sound_assignNames
    (package : Option String) :
    Preserves Sound (assignNames package) := by
  refine preserves_get_bind fun _ => preserves_get_bind fun _ => ?_
  refine (preserves_sound_nameModules package _).bind fun scopes => ?_
  exact preserves_forAll fun named _ =>
    preserves_sound_nameMembers (fun _ => preserves_throw _) _ named

/-! ## Models as wholes -/

theorem Sound.markImported
    {model : BindingModel}
    (sound : model.Sound) :
    model.markImported.Sound := by
  refine sound_of_reindex_eq ?_ ?_
  · obtain ⟨modules, classes, enums, rules⟩ := valid_contents_iff.mp sound.valid
    refine valid_contents_iff.mpr ⟨Module.tidy_of_same_keys modules ?_ ?_,
      Class.tidy_of_same_keys classes ?_ ?_, Enumeration.tidy_of_same_keys enums ?_ ?_, rules⟩
    · simp [contentsOf, BindingModel.markImported, Function.comp_def]
    · exact List.forall_mem_map.mpr fun entity member =>
        Module.valid_flagged (modules.valid entity member) true
    · simp [contentsOf, BindingModel.markImported, Function.comp_def, Class.keys]
    · exact List.forall_mem_map.mpr fun entity member =>
        Class.valid_flagged (classes.valid entity member) true
    · simp [contentsOf, BindingModel.markImported, Function.comp_def]
    · exact List.forall_mem_map.mpr fun entity member =>
        Enumeration.valid_flagged (enums.valid entity member) true
  · refine reindex_eq_of_same_keys sound.reindex_eq ?_ ?_ ?_ ?_ rfl rfl rfl rfl
    all_goals simp [BindingModel.markImported, Function.comp_def]

theorem Sound.retainLocal
    {model : BindingModel}
    (sound : model.Sound) :
    model.retainLocal.Sound where
  valid := by
    obtain ⟨modules, classes, enums, rules⟩ := valid_contents_iff.mp sound.valid
    exact valid_contents_iff.mpr ⟨modules.sublist List.filter_sublist,
      classes.sublist List.filter_sublist, enums.sublist List.filter_sublist, rules⟩
  rebuilt := rfl

/-- A sound model that is written and read is sound. -/
theorem Sound.asRead
    {model : BindingModel}
    (sound : model.Sound) :
    model.asRead.reindex.Sound where
  valid := by
    obtain ⟨modules, classes, enums, rules⟩ := valid_contents_iff.mp sound.valid
    refine valid_contents_iff.mpr ⟨Module.tidy_of_same_keys modules ?_ ?_,
      Class.tidy_of_same_keys classes ?_ ?_, Enumeration.tidy_of_same_keys enums ?_ ?_, ?_⟩
    · simp [contentsOf, BindingModel.reindex, BindingModel.asRead, Function.comp_def,
        Module.asRead]
    · refine List.forall_mem_map.mpr fun entity member => ?_
      rw [Module.asRead_eq (modules.valid entity member)]
      exact modules.valid entity member
    · simp [contentsOf, BindingModel.reindex, BindingModel.asRead, Function.comp_def,
        Class.asRead, Class.keys]
    · refine List.forall_mem_map.mpr fun entity member => ?_
      rw [Class.asRead_eq (classes.valid entity member)]
      exact classes.valid entity member
    · simp [contentsOf, BindingModel.reindex, BindingModel.asRead, Function.comp_def,
        Enumeration.asRead]
    · exact List.forall_mem_map.mpr fun entity member =>
        Enumeration.valid_asRead (enums.valid entity member)
    · have sameRules : model.rules.asRead = model.rules := Keyed.asRead_eq rules.nodup_keys
      simpa [contentsOf, BindingModel.reindex, BindingModel.asRead, sameRules] using rules
  rebuilt := rfl

/-! ## Reachable models -/

theorem Reachable.performAll
    {registrations : List Registration}
    {model changed : BindingModel}
    (reachable : Reachable model)
    (performed : Registration.performAll registrations model = .ok () changed) :
    Reachable changed := by
  induction registrations generalizing model with
  | nil =>
      cases performed
      exact reachable
  | cons registration rest inductionHypothesis =>
      rw [← after?_eq_some_iff, Registration.performAll, after?_bind,
        Option.bind_eq_some_iff] at performed
      obtain ⟨between, first, others⟩ := performed
      have next := reachable.register registration
      rw [left_of_after? first] at next
      exact inductionHypothesis next (after?_eq_some_iff.mp others)

theorem Built.reachable
    {model : BindingModel}
    (built : model.Built) :
    Reachable model := by
  obtain ⟨registrations, performed⟩ := built
  exact Reachable.empty.performAll performed

/-- Every reachable model is sound. -/
theorem Reachable.sound
    {model : BindingModel}
    (reachable : Reachable model) :
    model.Sound := by
  induction reachable with
  | empty => exact ofContents_nothing ▸ sound_ofContents neutral_nothing.valid
  | register registration _ inductionHypothesis =>
      exact preserves_sound_perform registration _ inductionHypothesis
  | merge _ _ inductionHypothesis _ => exact preserves_sound_merge _ _ inductionHypothesis
  | assignNames package _ inductionHypothesis =>
      exact preserves_sound_assignNames package _ inductionHypothesis
  | markImported _ inductionHypothesis => exact inductionHypothesis.markImported
  | retainLocal _ inductionHypothesis => exact inductionHypothesis.retainLocal
  | reindex _ inductionHypothesis =>
      rwa [inductionHypothesis.reindex_eq]
  | readBack _ isText parsed decoded inductionHypothesis =>
      rw [Interchange.eq_asRead_of_decoded isText parsed decoded]
      exact inductionHypothesis.asRead
  | load _ isLoaded inductionHypothesis =>
      rw [(Artifact.ofText?_text isLoaded).2.1]
      exact inductionHypothesis.asRead

end BindingModel

end BindingStubs
