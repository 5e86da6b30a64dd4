import BindingStubs.Proofs.Model.Decoding
import BindingStubs.Proofs.Model.Soundness
import BindingStubs.Proofs.Resolution.Simulation

namespace BindingStubs

/-!
# Models that are exported and imported

A run writes its model to an artifact, and a later run reads it, flags everything as imported and
merges it into its own.  The artifact is read back as it was written, and the imported model
resolves every type as the exported one does.
-/

namespace BindingModel

/-- A model holds no more than its fields can: numbers of 32 bits in its locations, and each value
of an enum once. -/
structure Representable
    (model : BindingModel) : Prop where
  locations : ∀ location ∈ model.locations, location.Fits
  values : DistinctValues model

/-- A sound model without imported entities is exported as it is. -/
theorem Sound.retainLocal_eq
    {model : BindingModel}
    (sound : model.Sound)
    (isLocal : IsLocal model.contentsOf) :
    model.retainLocal = model := by
  have modules : (model.modules.filter fun entity => !entity.imported) = model.modules :=
    List.filter_eq_self.mpr fun entity member => by simpa using isLocal.modules entity member
  have classes : (model.classes.filter fun entity => !entity.imported) = model.classes :=
    List.filter_eq_self.mpr fun entity member => by simpa using isLocal.classes entity member
  have enums : (model.enums.filter fun entity => !entity.imported) = model.enums :=
    List.filter_eq_self.mpr fun entity member => by simpa using isLocal.enums entity member
  rw [BindingModel.retainLocal, modules, classes, enums]
  exact sound.rebuilt

/-- A sound model is read back as it was written. -/
theorem Sound.asRead_reindex
    {model : BindingModel}
    (sound : model.Sound)
    (distinct : DistinctValues model) :
    model.asRead.reindex = model := by
  have same := asRead_ofContents sound.valid distinct
  rwa [sound.rebuilt] at same

/-- Merging a sound model into the empty one leads to that model. -/
theorem Sound.merge_empty
    {model : BindingModel}
    (sound : model.Sound) :
    merge model empty = .ok () model := by
  have merged := after?_merge neutral_nothing.valid sound.valid
  rw [sound.rebuilt, ofContents_nothing, neutral_nothing.left sound.valid, Option.map_some,
    sound.rebuilt] at merged
  exact Change.after?_eq_some_iff.mp merged

section Lookups

variable (model : BindingModel)

theorem class?_markImported
    (key : String) :
    model.markImported.class? key =
      (model.class? key).map fun entity => { entity with imported := true } := by
  simp [class?, markImported, Option.map_bind]

theorem classForType?_markImported
    (type : CppType) :
    model.markImported.classForType? type =
      (model.classForType? type).map fun entity => { entity with imported := true } := by
  simp [classForType?, classTypePosition?, markImported, Option.map_bind]

theorem enum?_markImported
    (key : String) :
    model.markImported.enum? key =
      (model.enum? key).map fun entity => { entity with imported := true } := by
  simp [enum?, markImported, Option.map_bind]

end Lookups

/-- No names are assigned in a model that has no module of this run. -/
theorem assignNames_markImported
    (package : Option String)
    (model : BindingModel) :
    assignNames package model.markImported = .ok () model.markImported := by
  have noModules : model.markImported.localPositions = [] := by
    simp [localPositions, markImported, List.zipIdx_map, List.filter_map]
  rw [assignNames, Change.get_bind, assignNamesWithin, Change.get_bind, noModules]
  rfl

end BindingModel

namespace Artifact

open BindingModel

/-- The artifact of a sound model is read back as it was written. -/
theorem ofText?_text_eq
    {artifact : Artifact}
    (sound : artifact.model.Sound)
    (representable : artifact.model.Representable)
    (distinct : artifact.dependencies.keys.Nodup) :
    ofText? artifact.text = some artifact := by
  obtain ⟨loaded, isLoaded⟩ := exists_ofText?_text representable.locations
  obtain ⟨sameVersion, sameModel, sameDependencies⟩ := ofText?_text isLoaded
  rw [sound.asRead_reindex representable.values] at sameModel
  rw [Keyed.asRead_eq distinct] at sameDependencies
  obtain ⟨version, model, dependencies⟩ := loaded
  simp only at sameVersion sameModel sameDependencies
  rw [isLoaded, sameVersion, sameModel, sameDependencies]

end Artifact

namespace Resolution

open BindingModel

/-- A model answers as before when its entities are flagged as imported. -/
theorem answerAlike_markImported
    (model : BindingModel) :
    AnswerAlike Eq model.markImported model where
  entityName? scope type := by
    have sameOwner : owningModule? model.markImported = owningModule? model := by
      funext name
      simp [owningModule?, markImported, List.filterMap_map]
    have sameRelative :
        relative { model := model.markImported, scope } = relative { model, scope } := by
      funext name
      simp only [relative, sameOwner]
    have sameClassName :
        className? { model := model.markImported, scope } = className? { model, scope } := by
      funext key
      simp only [className?, class?_markImported, sameRelative]
      cases model.class? key <;> rfl
    simp only [entityName?, classForType?_markImported, enum?_markImported, sameRelative,
      sameClassName]
    cases model.classForType? type with
    | some entity => rfl
    | none =>
        cases type with
        | applied name arguments => rfl
        | plain name =>
            simp only [Option.map_none]
            cases model.enum? name <;> rfl
  choice type := by
    change SameChoice Eq type (chooseRule (model.rulesFor type.name) type) _
    cases chooseRule (model.rulesFor type.name) type with
    | unmatched => exact .unmatched
    | applied rule bindings => exact .applied rule bindings
    | ambiguous candidates => exact .ambiguous rfl
  emission _ := rfl
  endless _ := rfl

/-- Every type resolves in an imported model as it does in the exported one. -/
theorem resolve_markImported
    (model : BindingModel)
    (scope : Option String)
    (type : CppType) :
    resolve { model := model.markImported, scope } type = resolve { model, scope } type := by
  funext prelude
  have same := (answerAlike_markImported model).agree_resolve scope type prelude
  generalize resolve { model := model.markImported, scope } type prelude = outcome at same
  generalize resolve { model, scope } type prelude = outcome' at same
  cases same with
  | ok value after => rfl
  | error after sameFault => rw [sameFault]

end Resolution

namespace Artifact

open BindingModel

/--
The artifact of a reachable model without imported entities, whether or not names were assigned in
it, is read back with the same version, model and dependencies.  Merged into the empty model as
imported, its model resolves every type in every scope as the exported one does, with the same
prelude or the same fault, and no assignment of names changes it.
-/
theorem exported_model_is_imported
    {model : BindingModel}
    (reachable : Reachable model)
    (isLocal : IsLocal model.contentsOf)
    (representable : model.Representable)
    {dependencies : Keyed (List String)}
    (distinct : dependencies.keys.Nodup) :
    ∃ loaded imported,
      ofText? (ofRun model dependencies).text = some loaded ∧
        loaded.toolVersion = BindingStubs.toolVersion ∧
        loaded.model = model ∧
        loaded.dependencies = dependencies ∧
        merge loaded.importedModel empty = .ok () imported ∧
        (∀ scope type,
          Resolution.resolve { model := imported, scope } type =
            Resolution.resolve { model, scope } type) ∧
        ∀ package, assignNames package imported = .ok () imported := by
  have sound := reachable.sound
  have exported : (ofRun model dependencies).model = model := sound.retainLocal_eq isLocal
  have isLoaded : ofText? (ofRun model dependencies).text = some (ofRun model dependencies) := by
    refine ofText?_text_eq ?_ ?_ distinct
    all_goals rwa [exported]
  have isMerged :
      merge (ofRun model dependencies).importedModel empty = .ok () model.markImported := by
    rw [importedModel, exported]
    exact sound.markImported.merge_empty
  exact ⟨ofRun model dependencies, model.markImported, isLoaded, rfl, exported, rfl, isMerged,
    Resolution.resolve_markImported model, fun package => assignNames_markImported package model⟩

/-- A module with a class, an enum and a rule, as a file may register them. -/
def exportedFile : List Registration :=
  [.declareModule "Shapes" "shapes" (some "Formen: ▲ \\ \"■\"") ⟨"shapes.cpp", 1, 1⟩,
    .declareClass "Shadow<Box>" (.plain "Box") "Box" none none ⟨"shapes.cpp", 2, 1⟩,
    .addConstructor "Shadow<Box>" (.plain "Box") ⟨"shapes.cpp", 2, 1⟩
      { signature :=
          { returns := none
            parameters := [⟨"side", .plain "double"⟩]
            spelling := "Box(double)" }
        doc := none
        isStatic := false
        cppSignature := "Box(double)"
        location := ⟨"shapes.cpp", 3, 1⟩ },
    .declareEnum "Color" "Color" none ⟨[("RED", some (.integer "0")), ("NONE", none)]⟩
      ⟨"shapes.cpp", 4, 1⟩,
    .placeClass (.module "Shapes") "Shadow<Box>" ⟨"shapes.cpp", 5, 1⟩,
    .placeEnum (.module "Shapes") "Color" ⟨"shapes.cpp", 6, 1⟩,
    .addRule
      { pattern := .applied "vector" [.plain "T"]
        rendering := "list[\x7bT\x7d]"
        parameters := ["T"]
        declarations := []
        location := ⟨"shapes.cpp", 7, 1⟩ }]

/-- The model of the file with its names. -/
def exportedModel : BindingModel :=
  (Change.after? (assignNames (some "geometry")) (fragmentOf exportedFile)).getD empty

theorem exported_model_is_imported_for_shapes :
    let dependencies : Keyed (List String) := ⟨[("shapes.cpp", ["shapes.h", "box.h"])]⟩
    Reachable exportedModel ∧
      IsLocal exportedModel.contentsOf ∧
      exportedModel.Representable ∧
      dependencies.keys.Nodup ∧
      ∃ loaded imported,
        ofText? (ofRun exportedModel dependencies).text = some loaded ∧
          loaded.model = exportedModel ∧
          merge loaded.importedModel empty = .ok () imported ∧
          Resolution.resolve { model := imported } (.plain "Box") =
            Resolution.resolve { model := exportedModel } (.plain "Box") := by
  intro dependencies
  have built : (fragmentOf exportedFile).Built := built_fragmentOf (by decide +kernel)
  have isNamed :
      (Change.after? (assignNames (some "geometry")) (fragmentOf exportedFile)).isSome = true := by
    decide +kernel
  obtain ⟨named, reached⟩ := Option.isSome_iff_exists.mp isNamed
  have isModel : exportedModel = named := by
    rw [exportedModel, reached, Option.getD_some]
  have reachable : Reachable exportedModel := by
    rw [isModel, ← Change.left_of_after? reached]
    exact built.reachable.assignNames _
  have isLocal : IsLocal exportedModel.contentsOf :=
    ⟨by decide +kernel, by decide +kernel, by decide +kernel⟩
  have values : ∀ entity ∈ exportedModel.enums, entity.values.keys.Nodup := by
    decide +kernel
  have representable : exportedModel.Representable := ⟨by decide +kernel, values⟩
  have distinct : dependencies.keys.Nodup := by
    decide +kernel
  obtain ⟨loaded, imported, isLoaded, _, sameModel, _, isMerged, resolves, _⟩ :=
    exported_model_is_imported reachable isLocal representable distinct
  exact ⟨reachable, isLocal, representable, distinct, loaded, imported, isLoaded, sameModel,
    isMerged, resolves none (.plain "Box")⟩

end Artifact

end BindingStubs
