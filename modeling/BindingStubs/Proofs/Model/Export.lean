import Mathlib.Data.List.Nodup
import BindingStubs.Artifact
import BindingStubs.Proofs.Model.Reachable
import BindingStubs.Proofs.Model.Soundness

namespace BindingStubs

/-!
# What a run exports

A run imports the models of earlier runs, merges the fragments of its own files and exports what
is not flagged as imported.  Merging keeps the flag of either side, so that an entity of which an
earlier run knows as much as its key is left out, also when a fragment of this run declares it.
Whatever else the fragments declare is exported.
-/

/-- What decides whether an entity is exported. -/
structure Standing where
  key : String
  declared : Bool
  imported : Bool
  deriving DecidableEq

def Module.standing
    (entity : Module) :
    Standing :=
  ⟨entity.cppName, entity.declaredAt.isSome, entity.imported⟩

def Class.standing
    (entity : Class) :
    Standing :=
  ⟨entity.shadowKey, entity.declaredAt.isSome, entity.imported⟩

def Enumeration.standing
    (entity : Enumeration) :
    Standing :=
  ⟨entity.cppName, entity.declaredAt.isSome, entity.imported⟩

namespace Standing

/-- What is known of an entity by two sides. -/
def both
    (one other : Standing) :
    Standing :=
  ⟨one.key, one.declared || other.declared, one.imported || other.imported⟩

/-- Combined entities have one key, and are declared or imported if one of both is. -/
def Combines
    {Entity : Type}
    (joining : Joining Entity)
    (standing : Entity → Standing) :
    Prop :=
  ∀ {one other joined},
    joining.combine? one other = some joined →
    (standing one).key = (standing other).key ∧
      standing joined = both (standing one) (standing other)

/-- Said of what is known by two sides if it is said of one of them. -/
def Additive
    (Tells : Standing → Prop) :
    Prop :=
  ∀ {one other : Standing},
    one.key = other.key →
    (Tells (both one other) ↔ Tells one ∨ Tells other)

theorem additive_declared
    (key : String) :
    Additive fun standing => standing.key = key ∧ standing.declared = true := by
  intro one other sameKey
  simp [both, sameKey, and_or_left]

theorem additive_imported
    (key : String) :
    Additive fun standing => standing.key = key ∧ standing.imported = true := by
  intro one other sameKey
  simp [both, sameKey, and_or_left]

/-- A list that takes in another says what one of both says. -/
theorem tells_iff_of_insertAll?
    {Entity : Type}
    {joining : Joining Entity}
    {standing : Entity → Standing}
    (combines : Combines joining standing)
    {Tells : Standing → Prop}
    (additive : Additive Tells)
    {entities incoming extended : List Entity}
    (inserted : joining.insertAll? entities incoming = some extended) :
    (∃ entity ∈ extended, Tells (standing entity)) ↔
      (∃ entity ∈ entities, Tells (standing entity)) ∨
        ∃ entity ∈ incoming, Tells (standing entity) := by
  refine Joining.insertAll?_tells_iff ?_ inserted
  intro one other joined combined
  obtain ⟨sameKey, isBoth⟩ := combines combined
  rw [isBoth]
  exact additive sameKey

end Standing

/-- A declaration that is combined with another is the one of both that is there. -/
theorem Combining.isSome_declared
    {Site Details : Type}
    {undeclared : Details}
    {one other joined : Option Site × Details}
    (combined : (declared undeclared).combine? one other = some joined) :
    joined.1.isSome = (one.1.isSome || other.1.isSome) := by
  obtain ⟨site, details⟩ := one
  obtain ⟨site', details'⟩ := other
  cases site' with
  | none =>
      cases combined
      simp
  | some site' =>
      cases site with
      | none =>
          cases combined
          rfl
      | some site => cases combined

theorem Module.combines_standing : Standing.Combines joining standing := by
  intro one other joined combined
  have sameName := (identified.key_eq_of_combine? combined).1
  simp only [combine?_eq sameName, Option.bind_eq_some_iff, Option.map_eq_some_iff] at combined
  obtain ⟨declaration, declared, classes, _, enums, _, constants, _, rfl⟩ := combined
  exact ⟨sameName, congrArg (Standing.mk _ · _) (Combining.isSome_declared declared)⟩

theorem Class.combines_standing : Standing.Combines joining standing := by
  intro one other joined combined
  have sameKeys := (identified.key_eq_of_combine? combined).1
  simp only [combine?_eq sameKeys, Option.bind_eq_some_iff, Option.map_eq_some_iff] at combined
  obtain ⟨declaration, declared, classes, _, enums, _, properties, _, constants, _, sources, _,
    rfl⟩ := combined
  exact ⟨congrArg Prod.fst sameKeys,
    congrArg (Standing.mk _ · _) (Combining.isSome_declared declared)⟩

theorem Enumeration.combines_standing : Standing.Combines joining standing := by
  intro one other joined combined
  have sameName := (identified.key_eq_of_combine? combined).1
  simp only [combine?_eq sameName, Option.map_eq_some_iff] at combined
  obtain ⟨declaration, declared, rfl⟩ := combined
  exact ⟨sameName, congrArg (Standing.mk _ · _) (Combining.isSome_declared declared)⟩

/-- The kinds of entities that a model lists. -/
inductive EntityKind where
  | module
  | «class»
  | enum
  deriving DecidableEq

namespace BindingModel

/-- The standings of the entities of one kind. -/
def standings
    (model : BindingModel) :
    EntityKind → List Standing
  | .module => model.modules.map Module.standing
  | .class => model.classes.map Class.standing
  | .enum => model.enums.map Enumeration.standing

/-- A model lists an entity of a kind under a key. -/
def Knows
    (model : BindingModel)
    (kind : EntityKind)
    (key : String) :
    Prop :=
  ∃ standing ∈ model.standings kind, standing.key = key

/-- A model lists an entity of a kind under a key with the site of its declaration. -/
def Declares
    (model : BindingModel)
    (kind : EntityKind)
    (key : String) :
    Prop :=
  ∃ standing ∈ model.standings kind, standing.key = key ∧ standing.declared = true

/-- A model lists an entity of a kind under a key that is flagged as imported. -/
def Flags
    (model : BindingModel)
    (kind : EntityKind)
    (key : String) :
    Prop :=
  ∃ standing ∈ model.standings kind, standing.key = key ∧ standing.imported = true

instance
    (model : BindingModel)
    (kind : EntityKind)
    (key : String) :
    Decidable (model.Knows kind key) :=
  inferInstanceAs (Decidable (∃ standing ∈ model.standings kind, standing.key = key))

instance
    (model : BindingModel)
    (kind : EntityKind)
    (key : String) :
    Decidable (model.Declares kind key) :=
  inferInstanceAs (Decidable (∃ standing ∈ model.standings kind, _ ∧ _))

/-- What is said of an entity is said after combining if one side says it before. -/
theorem tells_iff_of_combine?
    {Tells : Standing → Prop}
    (additive : Standing.Additive Tells)
    (kind : EntityKind)
    {first second joined : Contents}
    (combined : contents.combine? first second = some joined) :
    (∃ standing ∈ (ofContents joined).standings kind, Tells standing) ↔
      (∃ standing ∈ (ofContents first).standings kind, Tells standing) ∨
        ∃ standing ∈ (ofContents second).standings kind, Tells standing := by
  simp only [contents, Combining.prod, Combining.both, Option.bind_eq_some_iff,
    Option.map_eq_some_iff] at combined
  obtain ⟨modules, modulesCombined, _, ⟨classes, classesCombined, _,
    ⟨enums, enumsCombined, rules, _, rfl⟩, rfl⟩, rfl⟩ := combined
  cases kind with
  | module =>
      simpa [standings] using
        Standing.tells_iff_of_insertAll? Module.combines_standing additive modulesCombined
  | «class» =>
      simpa [standings] using
        Standing.tells_iff_of_insertAll? Class.combines_standing additive classesCombined
  | enum =>
      simpa [standings] using
        Standing.tells_iff_of_insertAll? Enumeration.combines_standing additive enumsCombined

theorem tells_iff_of_gather?
    {Tells : Standing → Prop}
    (additive : Standing.Additive Tells)
    (kind : EntityKind)
    {whole gathered : Contents}
    {parts : List Contents}
    (success : contents.gather? whole parts = some gathered) :
    (∃ standing ∈ (ofContents gathered).standings kind, Tells standing) ↔
      (∃ standing ∈ (ofContents whole).standings kind, Tells standing) ∨
        ∃ part ∈ parts, ∃ standing ∈ (ofContents part).standings kind, Tells standing :=
  Combining.gather?_tells_iff (tells_iff_of_combine? additive kind) success

/-- What is said of an entity is said after merging if one of the merged models says it. -/
theorem tells_iff_of_forAll_merge
    {Tells : Standing → Prop}
    (additive : Standing.Additive Tells)
    (kind : EntityKind)
    {models : List BindingModel}
    (sound : ∀ model ∈ models, model.Sound)
    {merged : BindingModel}
    (isMerged : forAll merge models empty = .ok () merged) :
    (∃ standing ∈ merged.standings kind, Tells standing) ↔
      ∃ model ∈ models, ∃ standing ∈ model.standings kind, Tells standing := by
  have reached := Change.after?_eq_some_iff.mpr isMerged
  rw [← ofContents_nothing, after?_forAll_merge sound neutral_nothing.valid,
    Option.map_eq_some_iff] at reached
  obtain ⟨whole, gathered, rfl⟩ := reached
  have nothingTold : ¬ ∃ standing ∈ (ofContents nothing).standings kind, Tells standing := by
    cases kind <;> simp [standings, nothing]
  rw [tells_iff_of_gather? additive kind gathered, or_iff_right nothingTold]
  constructor
  · rintro ⟨part, member, said⟩
    obtain ⟨model, modelMember, rfl⟩ := List.mem_map.mp member
    rw [(sound model modelMember).rebuilt] at said
    exact ⟨model, modelMember, said⟩
  · rintro ⟨model, modelMember, said⟩
    refine ⟨model.contentsOf, List.mem_map_of_mem modelMember, ?_⟩
    rw [(sound model modelMember).rebuilt]
    exact said

/-- Registrations flag nothing as imported. -/
theorem Built.not_flags
    {model : BindingModel}
    (built : model.Built)
    (kind : EntityKind)
    (key : String) :
    ¬ model.Flags kind key := by
  obtain ⟨registrations, performed⟩ := built
  obtain ⟨parts, partsLocal, gathered⟩ := Registration.exists_contributions registrations
  have fromNothing := gathered neutral_nothing.valid
  rw [ofContents_nothing, Change.after?_eq_some_iff.mpr performed] at fromNothing
  obtain ⟨whole, success, rfl⟩ := Option.map_eq_some_iff.mp fromNothing.symm
  have local_of :
      ∀ part : Contents, IsLocal part → ¬ (ofContents part).Flags kind key := by
    intro part isLocal
    have modules := isLocal.modules
    have classes := isLocal.classes
    have enums := isLocal.enums
    cases kind <;>
      simp_all [Flags, standings, Module.standing, Class.standing, Enumeration.standing]
  rw [Flags, tells_iff_of_gather? (Standing.additive_imported key) kind success]
  rintro (inNothing | ⟨part, member, inPart⟩)
  · exact local_of nothing ⟨by simp [nothing], by simp [nothing], by simp [nothing]⟩ inNothing
  · exact local_of part (partsLocal part member).2 inPart

theorem standings_markImported
    (model : BindingModel)
    (kind : EntityKind) :
    model.markImported.standings kind =
      (model.standings kind).map fun standing => { standing with imported := true } := by
  cases kind <;> simp [standings, markImported, Function.comp_def, Module.standing, Class.standing,
    Enumeration.standing]

theorem standings_retainLocal
    (model : BindingModel)
    (kind : EntityKind) :
    model.retainLocal.standings kind =
      (model.standings kind).filter fun standing => !standing.imported := by
  cases kind <;> simp [standings, retainLocal, reindex, List.filter_map, Function.comp_def,
    Module.standing, Class.standing, Enumeration.standing]

/-- Names have no part in the standing of an entity. -/
theorem FillsNames.standings_eq
    {allowed : NameSlot → Prop}
    {before after : BindingModel}
    (fills : FillsNames allowed before after)
    (kind : EntityKind) :
    after.standings kind = before.standings kind := by
  cases kind with
  | module =>
      refine fills.modules.map_eq ?_
      rintro former changed (rfl | ⟨_, given, rfl⟩)
      all_goals rfl
  | «class» =>
      refine fills.classes.map_eq ?_
      rintro former changed (rfl | ⟨_, given, rfl⟩)
      all_goals rfl
  | enum =>
      refine fills.enums.map_eq ?_
      rintro former changed (rfl | ⟨_, given, rfl⟩)
      all_goals rfl

/-- No two entities of one kind have the same key. -/
theorem Indexed.distinct_keys
    {model : BindingModel}
    (indexed : Indexed model)
    (kind : EntityKind) :
    ((model.standings kind).map Standing.key).Nodup := by
  cases kind with
  | module => simpa [standings, Function.comp_def, Module.standing] using indexed.modules.distinct
  | «class» => simpa [standings, Function.comp_def, Class.standing] using indexed.classes.distinct
  | enum => simpa [standings, Function.comp_def, Enumeration.standing] using indexed.enums.distinct

/-- What is dropped is what is flagged. -/
theorem Indexed.retainLocal_declares_iff
    {model : BindingModel}
    (indexed : Indexed model)
    (kind : EntityKind)
    (key : String) :
    model.retainLocal.Declares kind key ↔ model.Declares kind key ∧ ¬ model.Flags kind key := by
  simp only [Declares, Flags, standings_retainLocal, List.mem_filter]
  constructor
  · rintro ⟨standing, ⟨member, retained⟩, rfl, declared⟩
    refine ⟨⟨standing, member, rfl, declared⟩, ?_⟩
    rintro ⟨flagged, flaggedMember, sameKey, isImported⟩
    obtain rfl : flagged = standing :=
      List.inj_on_of_nodup_map (indexed.distinct_keys kind) flaggedMember member sameKey
    simp [isImported] at retained
  · rintro ⟨⟨standing, member, sameKey, declared⟩, unflagged⟩
    refine ⟨standing, ⟨member, ?_⟩, sameKey, declared⟩
    have notImported : standing.imported ≠ true :=
      fun isImported => unflagged ⟨standing, member, sameKey, isImported⟩
    simpa using notImported

section Runs

variable {imports fragments : List BindingModel} {merged : BindingModel}
variable (importsBuilt : ∀ earlier ∈ imports, earlier.Built)
variable (fragmentsBuilt : ∀ fragment ∈ fragments, fragment.Built)

include importsBuilt fragmentsBuilt

/-- Every model that a run merges is sound. -/
theorem sound_of_mem_run :
    ∀ model ∈ imports.map markImported ++ fragments, model.Sound := by
  intro model member
  rcases List.mem_append.mp member with imported | isFragment
  · obtain ⟨earlier, earlierMember, rfl⟩ := List.mem_map.mp imported
    exact (importsBuilt earlier earlierMember).sound.markImported
  · exact (fragmentsBuilt model isFragment).sound

variable (isMerged : forAll merge (imports.map markImported ++ fragments) empty = .ok () merged)

include isMerged

/-- What a run declares, an import or a fragment declares. -/
theorem declares_iff_of_run
    (kind : EntityKind)
    (key : String) :
    merged.Declares kind key ↔
      (∃ earlier ∈ imports, earlier.Declares kind key) ∨
        ∃ fragment ∈ fragments, fragment.Declares kind key := by
  have sound := sound_of_mem_run importsBuilt fragmentsBuilt
  rw [Declares, tells_iff_of_forAll_merge (Standing.additive_declared key) kind sound isMerged]
  simp [or_and_right, exists_or, standings_markImported, Declares]

/-- What a run flags as imported, an import knows, if only as a placeholder. -/
theorem flags_iff_of_run
    (kind : EntityKind)
    (key : String) :
    merged.Flags kind key ↔ ∃ earlier ∈ imports, earlier.Knows kind key := by
  have sound := sound_of_mem_run importsBuilt fragmentsBuilt
  have noFragment : ¬ ∃ fragment ∈ fragments, fragment.Flags kind key := by
    rintro ⟨fragment, member, flagged⟩
    exact (fragmentsBuilt fragment member).not_flags kind key flagged
  rw [Flags, tells_iff_of_forAll_merge (Standing.additive_imported key) kind sound isMerged]
  simp only [List.mem_append, or_and_right, exists_or]
  refine (or_iff_left noFragment).trans ?_
  simp [standings_markImported, Knows]

end Runs

/--
A run that imports the models of earlier runs and merges its own fragments exports just those
declarations of its fragments whose keys no earlier run knows, and finds them by key.
-/
theorem export_declares_iff
    {imports fragments : List BindingModel}
    (importsBuilt : ∀ earlier ∈ imports, earlier.Built)
    (fragmentsBuilt : ∀ fragment ∈ fragments, fragment.Built)
    {merged named : BindingModel}
    (isMerged : forAll merge (imports.map markImported ++ fragments) empty = .ok () merged)
    {package : Option String}
    (isNamed : assignNames package merged = .ok () named)
    (dependencies : Keyed (List String)) :
    (Artifact.ofRun named dependencies).model.LooksUp ∧
      ∀ kind key,
        (Artifact.ofRun named dependencies).model.Declares kind key ↔
          (∃ fragment ∈ fragments, fragment.Declares kind key) ∧
            ∀ earlier ∈ imports, ¬ earlier.Knows kind key := by
  have fills := (settles_assignNames package merged).within
  rw [Change.left_of_ok isNamed] at fills
  have keepsIndexed :
      Change.Preserves Indexed (forAll merge (imports.map markImported ++ fragments)) :=
    Change.preserves_forAll fun model _ => preserves_indexed_merge model
  have mergedIndexed := keepsIndexed empty indexed_empty
  rw [Change.left_of_ok isMerged] at mergedIndexed
  have indexed : Indexed named := fills.indexed mergedIndexed
  refine ⟨indexed.retainLocal.looksUp, fun kind key => ?_⟩
  have declares := declares_iff_of_run importsBuilt fragmentsBuilt isMerged kind key
  have flags := flags_iff_of_run importsBuilt fragmentsBuilt isMerged kind key
  rw [Declares, ← fills.standings_eq] at declares
  rw [Flags, ← fills.standings_eq] at flags
  change named.retainLocal.Declares kind key ↔ _
  rw [indexed.retainLocal_declares_iff, Declares, Flags, declares, flags]
  constructor
  · rintro ⟨declared, unknown⟩
    have unknownTo : ∀ earlier ∈ imports, ¬ earlier.Knows kind key :=
      fun earlier member knows => unknown ⟨earlier, member, knows⟩
    rcases declared with ⟨earlier, member, standing, listed, sameKey, _⟩ | inFragment
    · exact absurd ⟨standing, listed, sameKey⟩ (unknownTo earlier member)
    · exact ⟨inFragment, unknownTo⟩
  · rintro ⟨inFragment, unknownTo⟩
    exact ⟨.inr inFragment, fun ⟨earlier, member, knows⟩ => unknownTo earlier member knows⟩

/-- A class derived from a base that another file declares, as an earlier run may register it. -/
def derivedFile : List Registration :=
  [.declareModule "Shapes" "shapes" none ⟨"shapes.cpp", 1, 1⟩,
    .declareClass "Shadow<Box>" (.plain "Box") "Box" none (some "Shadow<Base>")
      ⟨"shapes.cpp", 2, 1⟩,
    .referToClass "Shadow<Base>" (.plain "Base") ⟨"shapes.cpp", 2, 1⟩,
    .placeClass (.module "Shapes") "Shadow<Box>" ⟨"shapes.cpp", 3, 1⟩]

/-- The declaration of the base, as a file of this run may register it. -/
def baseFile : List Registration :=
  [.declareModule "Core" "core" none ⟨"core.cpp", 1, 1⟩,
    .declareClass "Shadow<Base>" (.plain "Base") "Base" none none ⟨"core.cpp", 2, 1⟩,
    .placeClass (.module "Core") "Shadow<Base>" ⟨"core.cpp", 3, 1⟩]

/-- What a run leads to that imports one model and has one fragment of its own. -/
def runWith
    (earlier own : BindingModel) :
    Option BindingModel :=
  (Change.after? (forAll merge ([earlier].map markImported ++ [own])) empty).bind
    (Change.after? (assignNames none))

/-- The module of a fragment is exported next to an import that does not know it. -/
theorem export_declares_module_beside_import :
    let earlier := fragmentOf derivedFile
    let own := fragmentOf baseFile
    (∀ model ∈ [earlier], model.Built) ∧ (∀ model ∈ [own], model.Built) ∧
      ∃ merged named,
        forAll merge ([earlier].map markImported ++ [own]) empty = .ok () merged ∧
          assignNames none merged = .ok () named ∧
          (Artifact.ofRun named {}).model.Declares .module "Core" := by
  intro earlier own
  have earlierBuilt : ∀ model ∈ [earlier], model.Built :=
    List.forall_mem_singleton.mpr (built_fragmentOf (by decide +kernel))
  have ownBuilt : ∀ model ∈ [own], model.Built :=
    List.forall_mem_singleton.mpr (built_fragmentOf (by decide +kernel))
  have ends : (runWith earlier own).isSome = true := by
    decide +kernel
  obtain ⟨named, isRun⟩ := Option.isSome_iff_exists.mp ends
  obtain ⟨merged, isMerged, isNamed⟩ := Option.bind_eq_some_iff.mp isRun
  rw [Change.after?_eq_some_iff] at isMerged isNamed
  have exported := (export_declares_iff earlierBuilt ownBuilt isMerged isNamed {}).2
  refine ⟨earlierBuilt, ownBuilt, merged, named, isMerged, isNamed, (exported _ _).mpr ?_⟩
  exact ⟨⟨own, List.mem_singleton_self own, by decide +kernel⟩, by decide +kernel⟩

/-- The base is placed in an exported module and declared by the run, but is not exported, since
the import refers to it. -/
theorem export_drops_declared_base :
    let earlier := fragmentOf derivedFile
    let own := fragmentOf baseFile
    earlier.Built ∧ own.Built ∧
      ∃ merged named,
        forAll merge ([earlier].map markImported ++ [own]) empty = .ok () merged ∧
          assignNames none merged = .ok () named ∧
          own.Declares .class "Shadow<Base>" ∧
          ¬ (Artifact.ofRun named {}).model.Declares .class "Shadow<Base>" ∧
          (Artifact.ofRun named {}).model.class? "Shadow<Base>" = none ∧
          ∃ core ∈ (Artifact.ofRun named {}).model.module? "Core",
            "Shadow<Base>" ∈ core.innerClasses.keys := by
  intro earlier own
  have declared : own.Declares .class "Shadow<Base>" := by
    decide +kernel
  have exported :
      ∃ named ∈ runWith earlier own,
        ¬ (Artifact.ofRun named {}).model.Declares .class "Shadow<Base>" ∧
          (Artifact.ofRun named {}).model.class? "Shadow<Base>" = none ∧
          ∃ core ∈ (Artifact.ofRun named {}).model.module? "Core",
            "Shadow<Base>" ∈ core.innerClasses.keys := by
    decide +kernel
  obtain ⟨named, isRun, missing⟩ := exported
  obtain ⟨merged, isMerged, isNamed⟩ := Option.bind_eq_some_iff.mp isRun
  rw [Change.after?_eq_some_iff] at isMerged isNamed
  exact ⟨built_fragmentOf (by decide +kernel), built_fragmentOf (by decide +kernel), merged,
    named, isMerged, isNamed, declared, missing⟩

end BindingModel

end BindingStubs
