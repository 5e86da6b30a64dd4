import BindingStubs.Model.Naming
import BindingStubs.Proofs.Naming.Settling

namespace BindingStubs.BindingModel

/-!
# Filling in names

Naming only ever fills in full names that are missing.  A name has a slot: a place in one of
the three lists of a model.  Naming an entity that a slot belongs to fills at most that slot,
and may be repeated.
-/

open Change

/-- The same entity, or one that had no full name and has got one. -/
def Nameable.Filled
    {Entity : Type}
    (naming : Nameable Entity)
    (before after : Entity) :
    Prop :=
  after = before ∨
    naming.name before = none ∧ ∃ given, after = naming.rename before (some given)

namespace Nameable

variable {Entity : Type} {naming : Nameable Entity}

theorem filled_refl
    (entity : Entity) :
    naming.Filled entity entity :=
  .inl rfl

theorem filled_rename
    {entity : Entity}
    (unnamed : naming.name entity = none)
    (given : String) :
    naming.Filled entity (naming.rename entity (some given)) :=
  .inr ⟨unnamed, given, rfl⟩

/-- A name that is filled in is never changed. -/
theorem Filled.eq_of_named
    {before after : Entity}
    {given : String}
    (filled : naming.Filled before after)
    (named : naming.name before = some given) :
    after = before := by
  rcases filled with unchanged | ⟨unnamed, _⟩
  · exact unchanged
  · simp [named] at unnamed

theorem Filled.trans
    {first second third : Entity}
    (one : naming.Filled first second)
    (other : naming.Filled second third) :
    naming.Filled first third := by
  rcases one with rfl | ⟨unnamed, given, rfl⟩
  · exact other
  · rw [other.eq_of_named (naming.name_rename first (some given))]
    exact filled_rename unnamed given

theorem Filled.declaredAt
    {before after : Entity}
    (filled : naming.Filled before after) :
    naming.declaredAt after = naming.declaredAt before := by
  rcases filled with rfl | ⟨_, given, rfl⟩
  · rfl
  · exact naming.declaredAt_rename before _

theorem Filled.pythonName
    {before after : Entity}
    (filled : naming.Filled before after) :
    naming.pythonName after = naming.pythonName before := by
  rcases filled with rfl | ⟨_, given, rfl⟩
  · rfl
  · exact naming.pythonName_rename before _

/-- Apart from its name, an entity is the same. -/
theorem Filled.rename
    {before after : Entity}
    (filled : naming.Filled before after)
    (given : Option String) :
    naming.rename after given = naming.rename before given := by
  rcases filled with rfl | ⟨_, former, rfl⟩
  · rfl
  · exact naming.rename_rename before _ _

theorem filling
    (naming : Nameable Entity) :
    Filling naming.Filled naming.Filled where
  refl := filled_refl
  trans := Filled.trans
  fills_of_within := id
  fills_trans := Filled.trans

/-- An entity that is declared and bears the full name that is computed from its own. -/
structure Bears
    (naming : Nameable Entity)
    (qualified : String → String)
    (computed : String)
    (entity : Entity) : Prop where
  isDeclared : (naming.declaredAt entity).isSome
  computed_eq : computed = qualified (naming.pythonName entity)
  named : naming.name entity = some computed

theorem assignName_eq
    (kind key computed : String)
    (slot : Option String) :
    assignName kind key computed slot =
      match slot with
      | none => .ok () (some computed)
      | some existing =>
          if existing = computed then .ok () slot
          else .error (.containment kind key existing computed) slot := by
  cases slot with
  | none => rfl
  | some existing =>
      have checked :
          assignName kind key computed (some existing) =
            (if existing = computed then pure ()
              else throw (.containment kind key existing computed) :
                Change (Option String) Unit) (some existing) :=
        rfl
      rw [checked]
      by_cases same : existing = computed
      · rw [if_pos same]
        exact (if_pos same).symm
      · rw [if_neg same]
        exact (if_neg same).symm

/-- Naming an entity fills in its name, or checks the name that it has. -/
theorem nameEntity_eq
    (naming : Nameable Entity)
    (qualified : String → String)
    (undeclared : Fault)
    (key : String)
    (entity : Entity) :
    nameEntity naming qualified undeclared key entity =
      let computed := qualified (naming.pythonName entity)
      if naming.declaredAt entity = none then .error undeclared entity
      else
        match naming.name entity with
        | none => .ok computed (naming.rename entity (some computed))
        | some existing =>
            if existing = computed then .ok computed entity
            else .error (.containment naming.kind key existing computed) entity := by
  have unrenamed := naming.rename_name entity
  rw [nameEntity, Change.get_bind]
  cases declared : naming.declaredAt entity with
  | none => rfl
  | some location =>
      cases named : naming.name entity with
      | none => simp [bind, EStateM.bind, pure, EStateM.pure, onPart, assignName_eq, named]
      | some existing =>
          rw [named] at unrenamed
          by_cases same : existing = qualified (naming.pythonName entity)
          · rw [same] at named unrenamed
            simp [bind, EStateM.bind, pure, EStateM.pure, onPart, assignName_eq, named, same,
              unrenamed]
          · simp [bind, EStateM.bind, pure, onPart, assignName_eq, named, same, unrenamed]

/-- An entity that is named when it is left behind is not filled in any further. -/
theorem settles_of_named
    {Result : Type}
    {change : Change Entity Result}
    {Ensures : Result → Entity → Prop}
    {entity after : Entity}
    {given : String}
    (left_eq : left change entity = after)
    (filled : naming.Filled entity after)
    (named : naming.name after = some given)
    (again : change after = outcomeIn after (change entity))
    (ensures : ∀ {value}, change entity = .ok value after → Ensures value after) :
    Settles naming.Filled naming.Filled change Ensures entity where
  within := by
    rw [left_eq]
    exact filled
  repeats {later} filledLater := by
    rw [left_eq] at filledLater
    rw [filledLater.eq_of_named named]
    exact again
  ensures {value reached later} success filledLater := by
    obtain rfl : after = reached := left_eq.symm.trans (left_of_ok success)
    rw [filledLater.eq_of_named named]
    exact ensures success

section NameEntity

variable (qualified : String → String) (undeclared : Fault) (key : String) {entity : Entity}

/-- What is not declared is refused a name, also later. -/
theorem settles_nameEntity_of_undeclared
    (notDeclared : naming.declaredAt entity = none) :
    Settles naming.Filled naming.Filled (nameEntity naming qualified undeclared key)
      (naming.Bears qualified) entity := by
  refine Settles.of_refused naming.filling undeclared fun {later} filled => ?_
  rw [nameEntity_eq, if_pos (filled.declaredAt.trans notDeclared)]

/-- An entity without a name gets the one that is computed from its own. -/
theorem settles_nameEntity_of_unnamed
    (isDeclared : (naming.declaredAt entity).isSome)
    (unnamed : naming.name entity = none) :
    Settles naming.Filled naming.Filled (nameEntity naming qualified undeclared key)
      (naming.Bears qualified) entity := by
  let computed := qualified (naming.pythonName entity)
  let renamed := naming.rename entity (some computed)
  have declared : naming.declaredAt entity ≠ none := Option.isSome_iff_ne_none.mp isDeclared
  have renamedName : naming.name renamed = some computed := naming.name_rename ..
  have success :
      nameEntity naming qualified undeclared key entity = .ok computed renamed := by
    simp only [nameEntity_eq, if_neg declared, unnamed]
    rfl
  have again :
      nameEntity naming qualified undeclared key renamed = .ok computed renamed := by
    simp only [nameEntity_eq, renamed, naming.declaredAt_rename, naming.pythonName_rename,
      naming.name_rename, if_neg declared]
    rw [if_pos rfl]
  refine settles_of_named (left_of_ok success) (filled_rename unnamed computed) renamedName
    (again.trans (by rw [success, outcomeIn])) ?_
  intro value succeeded
  rw [success] at succeeded
  cases succeeded
  refine ⟨?_, ?_, renamedName⟩
  · rw [naming.declaredAt_rename]
    exact isDeclared
  · rw [naming.pythonName_rename]

/-- The name of an entity that has one is checked. -/
theorem settles_nameEntity_of_named
    (isDeclared : (naming.declaredAt entity).isSome)
    {existing : String}
    (named : naming.name entity = some existing) :
    Settles naming.Filled naming.Filled (nameEntity naming qualified undeclared key)
      (naming.Bears qualified) entity := by
  have declared : naming.declaredAt entity ≠ none := Option.isSome_iff_ne_none.mp isDeclared
  by_cases same : existing = qualified (naming.pythonName entity)
  · have success :
        nameEntity naming qualified undeclared key entity = .ok existing entity := by
      simp only [nameEntity_eq, if_neg declared, named, if_pos same]
      rw [same]
    refine settles_of_named (left_of_ok success) (filled_refl entity) named ?_ ?_
    · rw [success, outcomeIn]
    · intro value succeeded
      rw [success] at succeeded
      cases succeeded
      exact ⟨isDeclared, same, named⟩
  · have refused :
        nameEntity naming qualified undeclared key entity =
          .error (.containment naming.kind key existing
            (qualified (naming.pythonName entity))) entity := by
      simp only [nameEntity_eq, if_neg declared, named, if_neg same]
    refine settles_of_named (left_of_error refused) (filled_refl entity) named ?_ ?_
    · rw [refused, outcomeIn]
    · intro value success
      simp [refused] at success

end NameEntity

/-- An entity that is named bears its name from then on. -/
theorem settles_nameEntity
    (naming : Nameable Entity)
    (qualified : String → String)
    (undeclared : Fault)
    (key : String)
    (entity : Entity) :
    Settles naming.Filled naming.Filled (nameEntity naming qualified undeclared key)
      (naming.Bears qualified) entity := by
  cases declared : naming.declaredAt entity with
  | none => exact settles_nameEntity_of_undeclared qualified undeclared key declared
  | some location =>
      have isDeclared : (naming.declaredAt entity).isSome := Option.isSome_of_eq_some declared
      cases named : naming.name entity with
      | none => exact settles_nameEntity_of_unnamed qualified undeclared key isDeclared named
      | some existing => exact settles_nameEntity_of_named qualified undeclared key isDeclared named

/-- A list of entities in which names were filled in, and only in allowed places. -/
def FilledAt
    (naming : Nameable Entity)
    (allowed : Nat → Prop)
    (before after : List Entity) :
    Prop :=
  ∀ position,
    Option.Rel
      (fun former changed =>
        naming.Filled former changed ∧ (¬ allowed position → changed = former))
      before[position]? after[position]?

theorem filledAt_refl
    (allowed : Nat → Prop)
    (entities : List Entity) :
    naming.FilledAt allowed entities entities := by
  intro position
  cases entities[position]? with
  | none => exact .none
  | some entity => exact .some ⟨filled_refl entity, fun _ => rfl⟩

theorem FilledAt.trans
    {allowed : Nat → Prop}
    {first second third : List Entity}
    (one : naming.FilledAt allowed first second)
    (other : naming.FilledAt allowed second third) :
    naming.FilledAt allowed first third := by
  intro position
  have firstRel := one position
  have secondRel := other position
  revert firstRel secondRel
  generalize first[position]? = before
  generalize second[position]? = between
  generalize third[position]? = after
  rintro (⟨filled, kept⟩ | _) (⟨filled', kept'⟩ | _)
  · exact .some ⟨filled.trans filled', fun outside => (kept' outside).trans (kept outside)⟩
  · exact .none

theorem FilledAt.mono
    {allowed allowed' : Nat → Prop}
    {before after : List Entity}
    (filledAt : naming.FilledAt allowed before after)
    (implies : ∀ position, allowed position → allowed' position) :
    naming.FilledAt allowed' before after := by
  intro position
  have related := filledAt position
  revert related
  generalize before[position]? = former
  generalize after[position]? = changed
  rintro (⟨filled, kept⟩ | _)
  · exact .some ⟨filled, fun outside => kept fun inside => outside (implies position inside)⟩
  · exact .none

/-- What stands in a place later is what stood there before, perhaps with its name. -/
theorem FilledAt.exists_later
    {allowed : Nat → Prop}
    {before after : List Entity}
    (filledAt : naming.FilledAt allowed before after)
    {position : Nat}
    {former : Entity}
    (found : before[position]? = some former) :
    ∃ changed, after[position]? = some changed ∧ naming.Filled former changed := by
  have related := filledAt position
  rw [found] at related
  cases later : after[position]? with
  | none =>
      rw [later] at related
      cases related
  | some changed =>
      rw [later] at related
      cases related with
      | some both => exact ⟨changed, rfl, both.1⟩

/-- What stands in a place stood there before, perhaps without its name. -/
theorem FilledAt.exists_former
    {allowed : Nat → Prop}
    {before after : List Entity}
    (filledAt : naming.FilledAt allowed before after)
    {position : Nat}
    {changed : Entity}
    (found : after[position]? = some changed) :
    ∃ former, before[position]? = some former ∧ naming.Filled former changed := by
  cases earlier : before[position]? with
  | none =>
      have related := filledAt position
      rw [found, earlier] at related
      cases related
  | some former =>
      obtain ⟨changed', found', filled⟩ := filledAt.exists_later earlier
      rw [found] at found'
      cases found'
      exact ⟨former, rfl, filled⟩

/-- What stands in a place that is not allowed stays as it was. -/
theorem FilledAt.kept
    {allowed : Nat → Prop}
    {before after : List Entity}
    (filledAt : naming.FilledAt allowed before after)
    {position : Nat}
    {former : Entity}
    (found : before[position]? = some former)
    (outside : ¬ allowed position) :
    after[position]? = some former := by
  have related := filledAt position
  rw [found] at related
  cases later : after[position]? with
  | none =>
      rw [later] at related
      cases related
  | some changed =>
      rw [later] at related
      cases related with
      | some both => rw [both.2 outside]

theorem FilledAt.length_eq
    {allowed : Nat → Prop}
    {before after : List Entity}
    (filledAt : naming.FilledAt allowed before after) :
    after.length = before.length := by
  refine Nat.le_antisymm (Nat.le_of_not_lt fun longer => ?_) (Nat.le_of_not_lt fun longer => ?_)
  · obtain ⟨_, found, _⟩ := filledAt.exists_former (List.getElem?_eq_getElem longer)
    simp at found
  · obtain ⟨_, found, _⟩ := filledAt.exists_later (List.getElem?_eq_getElem longer)
    simp at found

/-- What a name does not show in is the same for all entities. -/
theorem FilledAt.map_eq
    {allowed : Nat → Prop}
    {before after : List Entity}
    (filledAt : naming.FilledAt allowed before after)
    {Value : Type}
    {view : Entity → Value}
    (kept : ∀ {former changed}, naming.Filled former changed → view changed = view former) :
    after.map view = before.map view := by
  refine List.ext_getElem? fun position => ?_
  rw [List.getElem?_map, List.getElem?_map]
  have related := filledAt position
  revert related
  generalize before[position]? = former
  generalize after[position]? = changed
  rintro (⟨filled, _⟩ | _)
  · rw [Option.map_some, Option.map_some, kept filled]
  · rfl

theorem filledAt_set
    {allowed : Nat → Prop}
    {entities : List Entity}
    {position : Nat}
    {former changed : Entity}
    (found : entities[position]? = some former)
    (inside : allowed position)
    (filled : naming.Filled former changed) :
    naming.FilledAt allowed entities (entities.set position changed) := by
  intro other
  by_cases same : position = other
  · subst same
    have inRange := (List.getElem?_eq_some_iff.mp found).1
    rw [List.getElem?_set_self inRange, found]
    exact .some ⟨filled, fun outside => absurd inside outside⟩
  · rw [List.getElem?_set_ne same]
    exact filledAt_refl allowed entities other

end Nameable

/-- The place of a full name in a model. -/
inductive NameSlot where
  | module (position : Nat)
  | class (position : Nat)
  | enum (position : Nat)

/-- A model in which full names were filled in, and only in allowed slots; nothing else is
different. -/
structure FillsNames
    (allowed : NameSlot → Prop)
    (before after : BindingModel) : Prop where
  modules :
    moduleNaming.FilledAt (fun place => allowed (.module place)) before.modules after.modules
  classes : classNaming.FilledAt (fun place => allowed (.class place)) before.classes after.classes
  enums : enumNaming.FilledAt (fun place => allowed (.enum place)) before.enums after.enums
  others :
    { after with modules := [], classes := [], enums := [] } =
      { before with modules := [], classes := [], enums := [] }

/-- Names may be filled in anywhere. -/
def anySlot : NameSlot → Prop := fun _ => True

namespace FillsNames

variable {allowed allowed' : NameSlot → Prop} {first second third before after : BindingModel}

theorem refl
    (model : BindingModel) :
    FillsNames allowed model model :=
  ⟨Nameable.filledAt_refl _ _, Nameable.filledAt_refl _ _, Nameable.filledAt_refl _ _, rfl⟩

theorem trans
    (one : FillsNames allowed first second)
    (other : FillsNames allowed second third) :
    FillsNames allowed first third :=
  ⟨one.modules.trans other.modules, one.classes.trans other.classes,
    one.enums.trans other.enums, other.others.trans one.others⟩

theorem mono
    (fills : FillsNames allowed before after)
    (implies : ∀ slot, allowed slot → allowed' slot) :
    FillsNames allowed' before after :=
  ⟨fills.modules.mono fun _ => implies _, fills.classes.mono fun _ => implies _,
    fills.enums.mono fun _ => implies _, fills.others⟩

theorem anywhere
    (fills : FillsNames allowed before after) :
    FillsNames anySlot before after :=
  fills.mono fun _ _ => trivial

theorem classPositions_eq
    (fills : FillsNames allowed before after) :
    after.classPositions = before.classPositions := by
  have same := congrArg BindingModel.classPositions fills.others
  exact same

theorem enumPositions_eq
    (fills : FillsNames allowed before after) :
    after.enumPositions = before.enumPositions := by
  have same := congrArg BindingModel.enumPositions fills.others
  exact same

theorem filling
    (allowed : NameSlot → Prop) :
    Filling (FillsNames allowed) (FillsNames anySlot) where
  refl := refl
  trans := trans
  fills_of_within := anywhere
  fills_trans := trans

end FillsNames

/-- One of the three lists of a model, in which names are filled in. -/
structure Arena
    {Entity : Type}
    (naming : Nameable Entity) where
  entities : BindingModel → List Entity
  rebuild : BindingModel → List Entity → BindingModel
  slot : Nat → NameSlot
  entities_rebuild : ∀ model changed, entities (rebuild model changed) = changed
  rebuild_entities : ∀ model, rebuild model (entities model) = model
  fills_rebuild :
    ∀ {allowed model changed},
      naming.FilledAt (fun place => allowed (slot place)) (entities model) changed →
      FillsNames allowed model (rebuild model changed)
  filledAt :
    ∀ {allowed before after},
      FillsNames allowed before after →
      naming.FilledAt (fun place => allowed (slot place)) (entities before) (entities after)

/-- The modules of a model. -/
def moduleArena : Arena moduleNaming where
  entities := modules
  rebuild model modules := { model with modules }
  slot := .module
  entities_rebuild _ _ := rfl
  rebuild_entities _ := rfl
  fills_rebuild filled :=
    ⟨filled, Nameable.filledAt_refl _ _, Nameable.filledAt_refl _ _, rfl⟩
  filledAt fills := fills.modules

/-- The classes of a model. -/
def classArena : Arena classNaming where
  entities := classes
  rebuild model classes := { model with classes }
  slot := .class
  entities_rebuild _ _ := rfl
  rebuild_entities _ := rfl
  fills_rebuild filled :=
    ⟨Nameable.filledAt_refl _ _, filled, Nameable.filledAt_refl _ _, rfl⟩
  filledAt fills := fills.classes

/-- The enums of a model. -/
def enumArena : Arena enumNaming where
  entities := enums
  rebuild model enums := { model with enums }
  slot := .enum
  entities_rebuild _ _ := rfl
  rebuild_entities _ := rfl
  fills_rebuild filled :=
    ⟨Nameable.filledAt_refl _ _, Nameable.filledAt_refl _ _, filled, rfl⟩
  filledAt fills := fills.enums

namespace Arena

variable {Entity : Type} {naming : Nameable Entity} {allowed : NameSlot → Prop}
  {before after : BindingModel} {position : Nat}

theorem absent_later
    (arena : Arena naming)
    (absent : (arena.entities before)[position]? = none)
    (fills : FillsNames allowed before after) :
    (arena.entities after)[position]? = none := by
  rw [Option.eq_none_iff_forall_ne_some]
  intro changed present
  obtain ⟨former, earlier, _⟩ := (arena.filledAt fills).exists_former present
  rw [absent] at earlier
  cases earlier

/-- What is put in a place stands there later, filled in further. -/
theorem exists_later_of_set
    (arena : Arena naming)
    {former entity : Entity}
    (found : (arena.entities before)[position]? = some former)
    (fills :
      FillsNames allowed
        (arena.rebuild before ((arena.entities before).set position entity)) after) :
    ∃ changed, (arena.entities after)[position]? = some changed ∧ naming.Filled entity changed := by
  refine (arena.filledAt fills).exists_later ?_
  rw [arena.entities_rebuild, List.getElem?_set_self (List.getElem?_eq_some_iff.mp found).1]

theorem rebuild_set_self
    (arena : Arena naming)
    {entity : Entity}
    (present : (arena.entities before)[position]? = some entity) :
    arena.rebuild before ((arena.entities before).set position entity) = before := by
  obtain ⟨inRange, rfl⟩ := List.getElem?_eq_some_iff.mp present
  rw [List.set_getElem_self, arena.rebuild_entities]

end Arena

/-- A change that settles every entity settles a model when it is run on one entity. -/
theorem Arena.settles_changeAt
    {Entity Result : Type}
    {naming : Nameable Entity}
    (arena : Arena naming)
    {run : Registering Result}
    {position : Nat}
    {change : Change Entity Result}
    (run_eq :
      ∀ model,
        run model = changeAt (arena.entities model) position (arena.rebuild model) change)
    {allowed : NameSlot → Prop}
    (inside : allowed (arena.slot position))
    {Ensures : Result → Entity → Prop}
    (settles : ∀ entity, Settles naming.Filled naming.Filled change Ensures entity)
    (model : BindingModel) :
    Settles (FillsNames allowed) (FillsNames anySlot) run
      (fun value later =>
        ∃ entity, (arena.entities later)[position]? = some entity ∧ Ensures value entity)
      model := by
  cases found : (arena.entities model)[position]? with
  | none =>
      refine Settles.of_refused (FillsNames.filling allowed)
        (.emission "an entity that is not registered") fun {later} fills => ?_
      simp only [run_eq, changeAt, arena.absent_later found fills, arena.rebuild_entities]
  | some entity =>
      obtain ⟨filled, repeats, ensures⟩ := settles entity
      let rebuilt := arena.rebuild model ((arena.entities model).set position (left change entity))
      have left_eq : left run model = rebuilt := by
        cases outcome : change entity <;>
          simp only [left, run_eq, changeAt, found, outcome, rebuilt]
      refine ⟨?_, fun {later} fills => ?_, fun {value after later} success fills => ?_⟩
      · rw [left_eq]
        exact arena.fills_rebuild (Nameable.filledAt_set found inside filled)
      · rw [left_eq] at fills
        obtain ⟨changed, present, filledFurther⟩ := arena.exists_later_of_set found fills
        have unchanged := arena.rebuild_set_self present
        have again := repeats filledFurther
        cases outcome : change entity <;>
          simp only [run_eq, changeAt, present, found, again, outcome, outcomeIn, unchanged]
      · obtain rfl : rebuilt = after := left_eq.symm.trans (left_of_ok success)
        obtain ⟨changed, present, filledFurther⟩ := arena.exists_later_of_set found fills
        refine ⟨changed, present, ?_⟩
        cases outcome : change entity with
        | ok result reached =>
            rw [left_of_ok outcome] at filledFurther
            simp only [run_eq, changeAt, found, outcome, EStateM.Result.ok.injEq] at success
            obtain ⟨rfl, _⟩ := success
            exact ensures outcome filledFurther
        | error fault reached =>
            simp [run_eq, changeAt, found, outcome] at success

end BindingStubs.BindingModel
