import BindingStubs.Proofs.Model.Contents

namespace BindingStubs.BindingModel

/-!
# Entering modules, classes and enums

The tables of a model lead to the entity with a given key.  Modules and enums are entered by
one name.  Classes are entered by two keys that have to lead to the same class.
-/

theorem distinct_moduleNames
    {modules : List Module}
    (tidy : Module.joining.Tidy modules) :
    (modules.map Module.cppName).Nodup := by
  refine List.pairwise_map.mpr (tidy.apart.imp ?_)
  intro first second apart
  exact beq_eq_false_iff_ne.mp apart

/-- A module is found by its name, or created. -/
theorem moduleEntry_ofContents
    (cppName : String)
    {whole : Contents}
    (tidy : Module.joining.Tidy whole.1) :
    moduleEntry cppName (ofContents whole) =
      match whole.1.findIdx? fun entity => entity.cppName == cppName with
      | some position => .ok position (ofContents whole)
      | none =>
          .ok whole.1.length
            (ofContents (whole.1 ++ [Module.placeholder cppName], whole.2)) := by
  have lookup :
      (ofContents whole).modulePositions.get? cppName =
        whole.1.findIdx? fun entity => entity.cppName == cppName :=
    get?_positionsBy (distinct_moduleNames tidy) cppName
  rw [← lookup]
  change
    (match (ofContents whole).modulePositions.get? cppName with
      | some position => pure position
      | none => _ : Registering Nat) (ofContents whole) = _
  cases (ofContents whole).modulePositions.get? cppName with
  | some position => rfl
  | none =>
      refine congrArg (EStateM.Result.ok _) ?_
      simp [ofContents, reindex, positionsBy_append, Module.placeholder]

theorem enters_module
    (cppName : String)
    {whole : Contents}
    (tidy : Module.joining.Tidy whole.1) :
    Enters Module.joining Module.cppName Module.placeholder
      (fun modules => ofContents (modules, whole.2)) whole.1 cppName
      (moduleEntry cppName) :=
  .of_match (fun met => beq_iff_eq.mp met) (moduleEntry_ofContents cppName tidy)

theorem after?_inModule
    {change : Change Module Unit}
    {addition : Module}
    (adds : Adds Module.joining Module.cppName change addition)
    {whole : Contents}
    (tidy : Module.joining.Tidy whole.1) :
    Change.after? (inModule addition.cppName change) (ofContents whole) =
      (Module.joining.insert? addition whole.1).map fun modules =>
        ofContents (modules, whole.2) := by
  refine after?_enter_bind Module.identified tidy (enters_module addition.cppName tidy) adds ?_
  intro entities position former atPosition nameKept
  refine (after?_changeAt modules (fun model modules => { model with modules }) position
    change _).trans ?_
  rw [show (ofContents (entities, whole.2)).modules[position]? = some former from atPosition,
    Option.bind_some]
  refine Option.map_congr fun changed reached => ?_
  have sameNames := map_set_of_same_key atPosition (nameKept changed reached)
  simp [ofContents, reindex, positionsBy_congr sameNames]

theorem distinct_enumNames
    {enums : List Enumeration}
    (tidy : Enumeration.joining.Tidy enums) :
    (enums.map Enumeration.cppName).Nodup := by
  refine List.pairwise_map.mpr (tidy.apart.imp ?_)
  intro first second apart
  exact beq_eq_false_iff_ne.mp apart

theorem enumEntry_ofContents
    (cppName : String)
    {whole : Contents}
    (tidy : Enumeration.joining.Tidy whole.2.2.1) :
    enumEntry cppName (ofContents whole) =
      match whole.2.2.1.findIdx? fun entity => entity.cppName == cppName with
      | some position => .ok position (ofContents whole)
      | none =>
          .ok whole.2.2.1.length
            (ofContents
              (whole.1, whole.2.1, whole.2.2.1 ++ [Enumeration.placeholder cppName],
                whole.2.2.2)) := by
  have lookup :
      (ofContents whole).enumPositions.get? cppName =
        whole.2.2.1.findIdx? fun entity => entity.cppName == cppName :=
    get?_positionsBy (distinct_enumNames tidy) cppName
  rw [← lookup]
  change
    (match (ofContents whole).enumPositions.get? cppName with
      | some position => pure position
      | none => _ : Registering Nat) (ofContents whole) = _
  cases (ofContents whole).enumPositions.get? cppName with
  | some position => rfl
  | none =>
      refine congrArg (EStateM.Result.ok _) ?_
      simp [ofContents, reindex, positionsBy_append, Enumeration.placeholder]

theorem enters_enum
    (cppName : String)
    {whole : Contents}
    (tidy : Enumeration.joining.Tidy whole.2.2.1) :
    Enters Enumeration.joining Enumeration.cppName Enumeration.placeholder
      (fun enums => ofContents (whole.1, whole.2.1, enums, whole.2.2.2)) whole.2.2.1 cppName
      (enumEntry cppName) :=
  .of_match (fun met => beq_iff_eq.mp met) (enumEntry_ofContents cppName tidy)

theorem after?_inEnum
    {change : Change Enumeration Unit}
    {addition : Enumeration}
    (adds : Adds Enumeration.joining Enumeration.cppName change addition)
    {whole : Contents}
    (tidy : Enumeration.joining.Tidy whole.2.2.1) :
    Change.after? (inEnum addition.cppName change) (ofContents whole) =
      (Enumeration.joining.insert? addition whole.2.2.1).map fun enums =>
        ofContents (whole.1, whole.2.1, enums, whole.2.2.2) := by
  refine after?_enter_bind Enumeration.identified tidy (enters_enum addition.cppName tidy)
    adds ?_
  intro entities position former atPosition nameKept
  refine (after?_changeAt enums (fun model enums => { model with enums }) position
    change _).trans ?_
  rw [show (ofContents (whole.1, whole.2.1, entities, whole.2.2.2)).enums[position]? =
      some former from atPosition, Option.bind_some]
  refine Option.map_congr fun changed reached => ?_
  have sameNames := map_set_of_same_key atPosition (nameKept changed reached)
  simp [ofContents, reindex, positionsBy_congr sameNames]

/-- Classes that do not meet differ in both keys. -/
theorem distinct_classKeys
    {classes : List Class}
    (tidy : Class.joining.Tidy classes) :
    (classes.map Class.shadowKey).Nodup ∧ (classes.map Class.cppType).Nodup := by
  have apart :
      ∀ {first second : Class},
        Class.joining.meets first second = false →
        first.shadowKey ≠ second.shadowKey ∧ first.cppType ≠ second.cppType := by
    intro first second unmet
    simpa [Class.joining, Joining.through, Joining.keyed, Class.view, Class.sharesKey]
      using unmet
  exact ⟨List.pairwise_map.mpr (tidy.apart.imp fun unmet => (apart unmet).1),
    List.pairwise_map.mpr (tidy.apart.imp fun unmet => (apart unmet).2)⟩

/-- The tables of a model lead to the first class with a key. -/
theorem classPositions_ofContents
    {whole : Contents}
    (tidy : Class.joining.Tidy whole.2.1)
    (shadowKey : String)
    (cppType : CppType) :
    (ofContents whole).classPositions.get? shadowKey =
        (whole.2.1.findIdx? fun entity => entity.shadowKey == shadowKey) ∧
      (ofContents whole).classTypePosition? cppType =
        whole.2.1.findIdx? fun entity => entity.cppType == cppType :=
  ⟨get?_positionsBy (distinct_classKeys tidy).1 shadowKey,
    lookup_positionsByType (distinct_classKeys tidy).2 cppType⟩

/-- A class with two new keys is created. -/
theorem classEntry_of_absent
    {shadowKey : String}
    {cppType : CppType}
    (location : Location)
    {model : BindingModel}
    (byKey : model.classPositions.get? shadowKey = none)
    (byType : model.classTypePosition? cppType = none) :
    classEntry shadowKey cppType location model =
      .ok model.classes.length
        { model with
          classes := model.classes ++ [Class.placeholder shadowKey cppType]
          classPositions := model.classPositions.insert shadowKey model.classes.length
          classTypePositions :=
            (cppType, model.classes.length) :: model.classTypePositions } := by
  rw [classEntry, Change.get_bind]
  simp only [byKey, byType]
  rfl

/-- A class is found where both its keys lead. -/
theorem classEntry_of_present
    {shadowKey : String}
    {cppType : CppType}
    (location : Location)
    {model : BindingModel}
    {position : Nat}
    (byKey : model.classPositions.get? shadowKey = some position)
    (byType : model.classTypePosition? cppType = some position) :
    classEntry shadowKey cppType location model = .ok position model := by
  rw [classEntry, Change.get_bind]
  simp only [byKey, byType, if_true]
  rfl

/-- A class whose keys lead to different places is refused. -/
theorem classEntry_of_conflict
    {shadowKey : String}
    {cppType : CppType}
    (location : Location)
    {model : BindingModel}
    (differ : model.classPositions.get? shadowKey ≠ model.classTypePosition? cppType) :
    Change.after? (classEntry shadowKey cppType location) model = none := by
  rw [classEntry, Change.after?_get_bind]
  cases byKey : model.classPositions.get? shadowKey with
  | none =>
      cases byType : model.classTypePosition? cppType with
      | none => exact absurd (byKey.trans byType.symm) differ
      | some position => rfl
  | some position =>
      cases byType : model.classTypePosition? cppType with
      | none => rfl
      | some position' =>
          have apart : position ≠ position' := by
            rintro rfl
            exact differ (byKey.trans byType.symm)
          simp [apart]

/-- The first class that shares a key is the first with each key that it shares. -/
theorem findIdx?_of_sharesKey
    {shadowKey : String}
    {cppType : CppType}
    {classes : List Class}
    {position : Nat}
    {former : Class}
    (found :
      classes.findIdx? (Class.joining.meets · (Class.placeholder shadowKey cppType)) =
        some position)
    (atPosition : classes[position]? = some former) :
    (former.shadowKey = shadowKey →
        (classes.findIdx? fun entity => entity.shadowKey == shadowKey) = some position) ∧
      (former.cppType = cppType →
        (classes.findIdx? fun entity => entity.cppType == cppType) = some position) :=
  ⟨fun sameKey =>
      findIdx?_of_narrower (fun _ holds => Bool.or_eq_true_iff.mpr (.inl holds)) found
        atPosition (beq_iff_eq.mpr sameKey),
    fun sameType =>
      findIdx?_of_narrower (fun _ holds => Bool.or_eq_true_iff.mpr (.inr holds)) found
        atPosition (beq_iff_eq.mpr sameType)⟩

/-- Classes are entered by both their keys. -/
theorem enters_class
    (shadowKey : String)
    (cppType : CppType)
    (location : Location)
    {whole : Contents}
    (tidy : Class.joining.Tidy whole.2.1) :
    Enters Class.joining Class.keys (fun keys => Class.placeholder keys.1 keys.2)
      (fun classes => ofContents (whole.1, classes, whole.2.2)) whole.2.1
      (shadowKey, cppType) (classEntry shadowKey cppType location) where
  absent found := by
    obtain ⟨byKey, byType⟩ := classPositions_ofContents tidy shadowKey cppType
    have neither := List.findIdx?_eq_none_iff.mp found
    have keyAbsent : (whole.2.1.findIdx? fun entity => entity.shadowKey == shadowKey) = none :=
      List.findIdx?_eq_none_iff.mpr fun entity member =>
        (Bool.or_eq_false_iff.mp (neither entity member)).1
    have typeAbsent : (whole.2.1.findIdx? fun entity => entity.cppType == cppType) = none :=
      List.findIdx?_eq_none_iff.mpr fun entity member =>
        (Bool.or_eq_false_iff.mp (neither entity member)).2
    refine (classEntry_of_absent location (byKey.trans keyAbsent)
      (byType.trans typeAbsent)).trans ?_
    refine congrArg (EStateM.Result.ok _) ?_
    simp [ofContents, reindex, positionsBy_append, positionsByType_append, Class.placeholder]
  present {position former} found atPosition sameKeys := by
    obtain ⟨byKey, byType⟩ := classPositions_ofContents tidy shadowKey cppType
    obtain ⟨sameKey, sameType⟩ := Prod.ext_iff.mp sameKeys
    obtain ⟨keyFound, typeFound⟩ := findIdx?_of_sharesKey found atPosition
    exact classEntry_of_present location (byKey.trans (keyFound sameKey))
      (byType.trans (typeFound sameType))
  conflict {position former} found atPosition differ := by
    obtain ⟨byKey, byType⟩ := classPositions_ofContents tidy shadowKey cppType
    obtain ⟨keyFound, typeFound⟩ := findIdx?_of_sharesKey found atPosition
    refine classEntry_of_conflict location fun samePlace => differ ?_
    -- Were both keys to lead to one place, the class found there would have both of them.
    have shared := holds_of_findIdx?_eq_some found atPosition
    rcases Bool.or_eq_true_iff.mp shared with sameKey | sameType
    · have sameKey := beq_iff_eq.mp sameKey
      have typeFound := byType.symm.trans (samePlace.symm.trans (byKey.trans (keyFound sameKey)))
      have sameType := holds_of_findIdx?_eq_some typeFound atPosition
      exact Prod.ext sameKey (beq_iff_eq.mp sameType)
    · have sameType := beq_iff_eq.mp sameType
      have keyFound := byKey.symm.trans (samePlace.trans (byType.trans (typeFound sameType)))
      have sameKey := holds_of_findIdx?_eq_some keyFound atPosition
      exact Prod.ext (beq_iff_eq.mp sameKey) sameType

theorem after?_inClass
    {change : Change Class Unit}
    {addition : Class}
    (adds : Adds Class.joining Class.keys change addition)
    (location : Location)
    {whole : Contents}
    (tidy : Class.joining.Tidy whole.2.1) :
    Change.after? (inClass addition.shadowKey addition.cppType location change)
        (ofContents whole) =
      (Class.joining.insert? addition whole.2.1).map fun classes =>
        ofContents (whole.1, classes, whole.2.2) := by
  refine after?_enter_bind Class.identified tidy
    (enters_class addition.shadowKey addition.cppType location tidy) adds ?_
  intro entities position former atPosition keysKept
  refine (after?_changeAt classes (fun model classes => { model with classes }) position
    change _).trans ?_
  rw [show (ofContents (whole.1, entities, whole.2.2)).classes[position]? = some former from
    atPosition, Option.bind_some]
  refine Option.map_congr fun changed reached => ?_
  have sameKey : changed.shadowKey = former.shadowKey :=
    congrArg Prod.fst (keysKept changed reached)
  have sameType : changed.cppType = former.cppType :=
    congrArg Prod.snd (keysKept changed reached)
  have sameKeys := map_set_of_same_key atPosition sameKey
  have sameTypes := map_set_of_same_key atPosition sameType
  simp [ofContents, reindex, positionsBy_congr sameKeys, positionsByType_congr sameTypes]

end BindingStubs.BindingModel
