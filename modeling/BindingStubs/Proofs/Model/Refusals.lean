import BindingStubs.Proofs.Keyed
import BindingStubs.Proofs.Model.Entries
import BindingStubs.Proofs.Model.Interchange
import BindingStubs.Proofs.Model.Reachable

namespace BindingStubs

/-!
# What refused registrations leave behind

A registration that is refused leaves the model as it was, since it looks for a conflict before it
changes anything, and since placeholders accept every change.  Completing a property is the one
exception: its halves are taken over one after the other, so a new getter stays although the
setter that came with it is refused.
-/

namespace Change

variable {State Result : Type}

/-- Whether a change leaves a state as it was if it is refused there. -/
def AllOrNothing
    (change : Change State Result)
    (state : State) :
    Prop :=
  after? change state = none → left change state = state

theorem allOrNothing_of_accepted
    {change : Change State Result}
    {state : State}
    (accepted : after? change state ≠ none) :
    AllOrNothing change state :=
  fun refused => absurd refused accepted

theorem AllOrNothing.discard
    {change : Change State Result}
    {state : State}
    (allOrNothing : AllOrNothing change state) :
    AllOrNothing (discard change) state := by
  intro refused
  rw [after?_discard] at refused
  have same := allOrNothing refused
  cases outcome : change state <;>
    simpa [left, Functor.discard, Functor.mapConst, EStateM.map, outcome] using same

/-- A declaration is looked for before anything is recorded. -/
theorem allOrNothing_declare
    (kind key : String)
    (declaredAt : Option Location)
    (location : Location)
    (update : State → State)
    (state : State) :
    AllOrNothing
      (BindingModel.requireUndeclared kind key declaredAt location >>= fun _ => modify update)
      state := by
  cases declaredAt with
  | none => exact allOrNothing_of_accepted (Option.some_ne_none _)
  | some first => exact fun _ => rfl

/-- A change of a part is all or nothing where the part's is, if putting a part back changes
nothing. -/
theorem AllOrNothing.onPart
    {Part : Type}
    {part : State → Part}
    {update : State → Part → State}
    {change : State → Change Part Result}
    {state : State}
    (putBack : update state (part state) = state)
    (allOrNothing : AllOrNothing (change state) (part state)) :
    AllOrNothing (get >>= fun whole => onPart part update (change whole)) state := by
  intro refused
  rw [after?_get_bind, after?_onPart, Option.map_eq_none_iff] at refused
  have same := allOrNothing refused
  simp only [left, get_bind, BindingStubs.onPart] at same ⊢
  cases outcome : change state (part state) <;> simp_all

end Change

open Change

theorem allOrNothing_place
    (kind owner key : String)
    (location : Location)
    (placed : Placements) :
    AllOrNothing (place kind owner key location) placed := by
  rw [AllOrNothing, place, after?_get_bind]
  simp only [left, Change.get_bind]
  cases placed.get? key with
  | none => exact fun refused => absurd refused (Option.some_ne_none _)
  | some first => exact fun _ => rfl

theorem allOrNothing_insertConstant
    (owner : String)
    (constant : Constant)
    (present : Keyed Constant) :
    AllOrNothing (insertConstant owner constant) present := by
  rw [AllOrNothing, insertConstant, after?_get_bind]
  simp only [left, Change.get_bind]
  cases present.get? constant.name with
  | none => exact fun refused => absurd refused (Option.some_ne_none _)
  | some existing => exact fun _ => rfl

/-! ## Properties -/

/-- What is left of a property whose completion is refused: it has the getter that it was given, if
it had none. -/
theorem Property.left_absorb_of_refused
    {owner : String}
    {incoming existing : Property}
    (refused : after? (absorb owner incoming) existing = none) :
    left (absorb owner incoming) existing =
      if existing.getterType = none then { existing with getterType := incoming.getterType }
      else existing := by
  obtain ⟨_, _, getter, setter, _, _⟩ := existing
  obtain ⟨_, _, incomingGetter, incomingSetter, _, _⟩ := incoming
  cases getter <;> cases incomingGetter <;> cases setter <;> cases incomingSetter <;>
    first | rfl | cases refused

namespace Class

/-- Whether a class has a property without a getter to which another one would bring a getter. -/
def LacksGetter
    (owner : Class)
    (property : Property) :
    Prop :=
  ∃ existing,
    owner.properties.get? property.name = some existing ∧
      existing.getterType = none ∧ property.getterType ≠ none

/-- Refusing a property changes its class exactly if the getter was new. -/
theorem left_addProperty_eq_iff
    {owner : Class}
    {property : Property}
    (refused : after? (addProperty property) owner = none) :
    left (addProperty property) owner = owner ↔ ¬ owner.LacksGetter property := by
  rw [addProperty, after?_get_bind] at refused
  simp only [left, addProperty, Change.get_bind, LacksGetter]
  cases found : owner.properties.get? property.name with
  | none =>
      rw [found] at refused
      cases refused
  | some existing =>
      simp only [found, after?_onPart, Option.map_eq_none_iff] at refused
      have taken := Property.left_absorb_of_refused refused
      have replaced :
          left
              (onPart (fun _ => existing)
                (fun (owner : Class) (changed : Property) =>
                  { owner with properties := owner.properties.insert property.name changed })
                (Property.absorb owner.shadowKey property))
              owner =
            { owner with
              properties :=
                owner.properties.insert property.name
                  (left (Property.absorb owner.shadowKey property) existing) } := by
        cases outcome : Property.absorb owner.shadowKey property existing <;>
          simp [left, onPart, outcome]
      change left (onPart _ _ _) owner = owner ↔ _
      rw [replaced, taken]
      simp only [Option.some.injEq, exists_eq_left']
      split
      · rename_i lacks
        simp only [lacks, true_and, not_not]
        constructor
        · intro same
          have atName := congrArg (fun owner => owner.properties.get? property.name) same
          simp only [Keyed.get?_insert, if_pos, found, Option.some.injEq] at atName
          rw [← lacks, ← atName]
        · intro nothing
          have unchanged : { existing with getterType := property.getterType } = existing := by
            rw [nothing, ← lacks]
          rw [unchanged, Keyed.insert_of_get?_eq_some found]
      · rename_i has
        simp only [has, false_and, not_false_eq_true, iff_true]
        rw [Keyed.insert_of_get?_eq_some found]

end Class

namespace BindingModel

/-! ## Entities that are found or created -/

section Entities

variable
  {Entity : Type}
  {part : BindingModel → List Entity}
  {update : BindingModel → List Entity → BindingModel}
  {change : Change Entity Unit}
  {model : BindingModel}

/-- A refused change of one entity leaves the model as it was, if and only if it leaves the
entity as it was. -/
theorem left_changeAt_eq_iff
    (position : Nat)
    (putBack : update model (part model) = model)
    (partOf : ∀ entities, part (update model entities) = entities)
    (refused :
      after? (fun model => changeAt (part model) position (update model) change) model = none) :
    left (fun model => changeAt (part model) position (update model) change) model = model ↔
      ∀ entity, (part model)[position]? = some entity → AllOrNothing change entity := by
  have reached := left_changeAt (part model) position (update model) change
  rw [putBack] at reached
  change left (fun _ => changeAt (part model) position (update model) change) model = model ↔ _
  rw [after?_changeAt] at refused
  rw [reached]
  cases found : (part model)[position]? with
  | none => simp
  | some entity =>
      rw [found, Option.bind_some, Option.map_eq_none_iff] at refused
      simp only [Option.some.injEq, forall_eq', AllOrNothing, refused, true_imp_iff]
      obtain ⟨inside, atPosition⟩ := List.getElem?_eq_some_iff.mp found
      constructor
      · intro same
        have sameEntities := congrArg part same
        rw [partOf] at sameEntities
        have sameEntity := congrArg (·[position]?) sameEntities
        simpa [inside, atPosition] using sameEntity
      · intro same
        rw [same, ← atPosition, List.set_getElem_self, putBack]

/-- A refused change of an entity that is found, or created as a placeholder that accepts the
change, leaves the model as it was, if and only if it leaves the entity that is found. -/
theorem left_enter_eq_iff
    {entry : Registering Nat}
    {next : Nat → Registering Unit}
    {position? : Option Nat}
    {blank : Entity}
    (changes :
      ∀ position,
        next position = fun model => changeAt (part model) position (update model) change)
    (putBack : update model (part model) = model)
    (partOf : ∀ entities, part (update model entities) = entities)
    (present : ∀ position, position? = some position → entry model = .ok position model)
    (absent :
      position? = none →
        ∃ extended,
          entry model = .ok (part model).length extended ∧ part extended = part model ++ [blank])
    (accepts : after? change blank ≠ none)
    (refused : after? (entry >>= next) model = none) :
    left (entry >>= next) model = model ↔
      ∀ entity,
        (position?.bind fun position => (part model)[position]?) = some entity →
          AllOrNothing change entity := by
  cases found : position? with
  | none =>
      obtain ⟨extended, entered, partExtended⟩ := absent found
      rw [after?_bind_of_ok entered, changes, after?_changeAt, partExtended,
        List.getElem?_concat_length, Option.bind_some, Option.map_eq_none_iff] at refused
      exact absurd refused accepts
  | some position =>
      have entered := present position found
      rw [after?_bind_of_ok entered, changes] at refused
      rw [left_bind_of_ok entered, changes]
      exact left_changeAt_eq_iff position putBack partOf refused

end Entities

theorem left_inModule_eq_iff
    {cppName : String}
    {change : Change Module Unit}
    {model : BindingModel}
    (accepts : after? change (Module.placeholder cppName) ≠ none)
    (refused : after? (inModule cppName change) model = none) :
    left (inModule cppName change) model = model ↔
      ∀ entity, model.module? cppName = some entity → AllOrNothing change entity := by
  refine left_enter_eq_iff (fun _ => rfl) rfl (fun _ => rfl) (fun position found => ?_)
    (fun found => ?_) accepts refused
  · simp only [moduleEntry, Change.get_bind, found]
    rfl
  · simp only [moduleEntry, Change.get_bind, found]
    exact ⟨_, rfl, rfl⟩

theorem left_inEnum_eq_iff
    {cppName : String}
    {change : Change Enumeration Unit}
    {model : BindingModel}
    (accepts : after? change (Enumeration.placeholder cppName) ≠ none)
    (refused : after? (inEnum cppName change) model = none) :
    left (inEnum cppName change) model = model ↔
      ∀ entity, model.enum? cppName = some entity → AllOrNothing change entity := by
  refine left_enter_eq_iff (fun _ => rfl) rfl (fun _ => rfl) (fun position found => ?_)
    (fun found => ?_) accepts refused
  · simp only [enumEntry, Change.get_bind, found]
    rfl
  · simp only [enumEntry, Change.get_bind, found]
    exact ⟨_, rfl, rfl⟩

/-- Whether both keys of a class lead to it. -/
def Finds
    (model : BindingModel)
    (shadowKey : String)
    (cppType : CppType)
    (owner : Class) :
    Prop :=
  model.classTypePosition? cppType = model.classPositions.get? shadowKey ∧
    model.class? shadowKey = some owner

/-- A class whose keys disagree is refused before it is looked for. -/
theorem left_classEntry_of_refused
    {shadowKey : String}
    {cppType : CppType}
    {location : Location}
    {model : BindingModel}
    (refused : after? (classEntry shadowKey cppType location) model = none) :
    left (classEntry shadowKey cppType location) model = model := by
  refine left_classEntry_of_known location (not_and_or.mp fun unknown => ?_)
  rw [after?_of_ok (classEntry_of_absent location unknown.1 unknown.2)] at refused
  cases refused

theorem left_inClass_eq_iff
    {shadowKey : String}
    {cppType : CppType}
    {location : Location}
    {change : Change Class Unit}
    {model : BindingModel}
    (accepts : after? change (Class.placeholder shadowKey cppType) ≠ none)
    (refused : after? (inClass shadowKey cppType location change) model = none) :
    left (inClass shadowKey cppType location change) model = model ↔
      ∀ owner, model.Finds shadowKey cppType owner → AllOrNothing change owner := by
  by_cases agree : model.classTypePosition? cppType = model.classPositions.get? shadowKey
  · have byKey :
        left (inClass shadowKey cppType location change) model = model ↔
          ∀ owner, model.class? shadowKey = some owner → AllOrNothing change owner := by
      refine left_enter_eq_iff (fun _ => rfl) rfl (fun _ => rfl) (fun position found => ?_)
        (fun found => ?_) accepts refused
      · exact classEntry_of_present location found (agree.trans found)
      · exact ⟨_, classEntry_of_absent location found (agree.trans found), rfl⟩
    simpa [Finds, agree] using byKey
  · have conflict := classEntry_of_conflict location (Ne.symm agree)
    have unchanged := left_classEntry_of_refused conflict
    simp only [Finds, agree, false_and, false_imp_iff, implies_true, iff_true]
    cases entered : classEntry shadowKey cppType location model with
    | ok position reached => simp [after?, entered] at conflict
    | error fault reached =>
        rw [inClass, left_bind_of_error entered, ← left_of_error entered, unchanged]

/-- A change that is refused in the class that is found is refused by the class. -/
theorem Finds.refused
    {shadowKey : String}
    {cppType : CppType}
    {location : Location}
    {change : Change Class Unit}
    {model : BindingModel}
    {owner : Class}
    (finds : model.Finds shadowKey cppType owner)
    (refused : after? (inClass shadowKey cppType location change) model = none) :
    after? change owner = none := by
  obtain ⟨agree, found⟩ := finds
  obtain ⟨position, atKey, atPosition⟩ := Option.bind_eq_some_iff.mp found
  rw [inClass, after?_bind_of_ok (classEntry_of_present location atKey (agree.trans atKey))]
    at refused
  have outcome := after?_changeAt classes (fun model classes => { model with classes }) position
    change model
  rw [atPosition, Option.bind_some] at outcome
  exact Option.map_eq_none_iff.mp (outcome.symm.trans refused)

theorem allOrNothing_moduleEntry
    (cppName : String)
    (model : BindingModel) :
    AllOrNothing (moduleEntry cppName) model := by
  refine allOrNothing_of_accepted ?_
  rw [moduleEntry, after?_get_bind]
  cases model.modulePositions.get? cppName <;> exact Option.some_ne_none _

theorem allOrNothing_enumEntry
    (cppName : String)
    (model : BindingModel) :
    AllOrNothing (enumEntry cppName) model := by
  refine allOrNothing_of_accepted ?_
  rw [enumEntry, after?_get_bind]
  cases model.enumPositions.get? cppName <;> exact Option.some_ne_none _

theorem allOrNothing_inModule
    (cppName : String)
    {change : Change Module Unit}
    (model : BindingModel)
    (accepts : after? change (Module.placeholder cppName) ≠ none)
    (allOrNothing : ∀ entity, AllOrNothing change entity) :
    AllOrNothing (inModule cppName change) model :=
  fun refused => (left_inModule_eq_iff accepts refused).mpr fun entity _ => allOrNothing entity

theorem allOrNothing_inEnum
    (cppName : String)
    {change : Change Enumeration Unit}
    (model : BindingModel)
    (accepts : after? change (Enumeration.placeholder cppName) ≠ none)
    (allOrNothing : ∀ entity, AllOrNothing change entity) :
    AllOrNothing (inEnum cppName change) model :=
  fun refused => (left_inEnum_eq_iff accepts refused).mpr fun entity _ => allOrNothing entity

theorem allOrNothing_inClass
    (shadowKey : String)
    (cppType : CppType)
    (location : Location)
    {change : Change Class Unit}
    (model : BindingModel)
    (accepts : after? change (Class.placeholder shadowKey cppType) ≠ none)
    (allOrNothing : ∀ owner, AllOrNothing change owner) :
    AllOrNothing (inClass shadowKey cppType location change) model :=
  fun refused => (left_inClass_eq_iff accepts refused).mpr fun owner _ => allOrNothing owner

/-- A rule is compared with the known ones before it is recorded. -/
theorem allOrNothing_addRule
    (rule : TypeRule)
    (model : BindingModel) :
    AllOrNothing (addRule rule) model := by
  intro refused
  rw [left_addRule_eq, refused, Option.getD_none]

end BindingModel

namespace Registration

open BindingModel

/-- Every registration but that of a property looks for a conflict before it changes anything. -/
theorem allOrNothing_perform
    {registration : Registration}
    (model : BindingModel)
    (noProperty :
      ∀ shadowKey cppType location property,
        registration ≠ .addProperty shadowKey cppType location property) :
    AllOrNothing registration.perform model := by
  cases registration with
  | referToModule cppName => exact (allOrNothing_moduleEntry cppName model).discard
  | declareModule cppName pythonName doc location =>
      exact allOrNothing_inModule cppName model (Option.some_ne_none _) fun entity =>
        allOrNothing_declare "module" cppName entity.declaredAt location _ entity
  | referToClass shadowKey cppType location =>
      exact AllOrNothing.discard left_classEntry_of_refused
  | declareClass shadowKey cppType pythonName doc parentKey location =>
      exact allOrNothing_inClass shadowKey cppType location model (Option.some_ne_none _)
        fun owner => allOrNothing_declare "class" shadowKey owner.declaredAt location _ owner
  | referToEnum cppName => exact (allOrNothing_enumEntry cppName model).discard
  | declareEnum cppName pythonName doc values location =>
      exact allOrNothing_inEnum cppName model (Option.some_ne_none _) fun entity =>
        allOrNothing_declare "enum" cppName entity.declaredAt location _ entity
  | addFunction cppName name function =>
      exact allOrNothing_inModule cppName model (Option.some_ne_none _) fun entity =>
        allOrNothing_of_accepted (Option.some_ne_none _)
  | addMethod shadowKey cppType location name method =>
      exact allOrNothing_inClass shadowKey cppType location model (Option.some_ne_none _)
        fun owner => allOrNothing_of_accepted (Option.some_ne_none _)
  | addConstructor shadowKey cppType location constructor =>
      exact allOrNothing_inClass shadowKey cppType location model (Option.some_ne_none _)
        fun owner => allOrNothing_of_accepted (Option.some_ne_none _)
  | addProperty shadowKey cppType location property =>
      exact absurd rfl (noProperty shadowKey cppType location property)
  | addConstant owner constant =>
      cases owner with
      | module cppName =>
          exact allOrNothing_inModule cppName model (Option.some_ne_none _) fun entity =>
            .onPart rfl (allOrNothing_insertConstant _ constant entity.constants)
      | «class» shadowKey cppType location =>
          exact allOrNothing_inClass shadowKey cppType location model (Option.some_ne_none _)
            fun owner => .onPart rfl (allOrNothing_insertConstant _ constant owner.constants)
  | placeClass owner key placedAt =>
      cases owner with
      | module cppName =>
          exact allOrNothing_inModule cppName model (Option.some_ne_none _) fun entity =>
            .onPart rfl (allOrNothing_place _ _ key placedAt entity.innerClasses)
      | «class» shadowKey cppType location =>
          exact allOrNothing_inClass shadowKey cppType location model (Option.some_ne_none _)
            fun owner => .onPart rfl (allOrNothing_place _ _ key placedAt owner.innerClasses)
  | placeEnum owner key placedAt =>
      cases owner with
      | module cppName =>
          exact allOrNothing_inModule cppName model (Option.some_ne_none _) fun entity =>
            .onPart rfl (allOrNothing_place _ _ key placedAt entity.innerEnums)
      | «class» shadowKey cppType location =>
          exact allOrNothing_inClass shadowKey cppType location model (Option.some_ne_none _)
            fun owner => .onPart rfl (allOrNothing_place _ _ key placedAt owner.innerEnums)
  | addImplicitSource shadowKey cppType location source =>
      exact allOrNothing_inClass shadowKey cppType location model (Option.some_ne_none _)
        fun owner => allOrNothing_of_accepted (Option.some_ne_none _)
  | addRule rule => exact allOrNothing_addRule rule model

/-- Whether a registration brings a getter to a property that has none. -/
def BringsGetter
    (model : BindingModel) :
    Registration → Prop
  | .addProperty shadowKey cppType _ property =>
      ∃ owner, model.Finds shadowKey cppType owner ∧ owner.LacksGetter property
  | _ => False

/-- A refused registration leaves the model as it was, unless it brings a getter to a property
that has none: then the getter stays. -/
theorem left_perform_of_refused
    {registration : Registration}
    {model : BindingModel}
    (refused : after? registration.perform model = none) :
    left registration.perform model = model ↔ ¬ registration.BringsGetter model := by
  cases registration with
  | addProperty shadowKey cppType location property =>
      have accepts :
          after? (Class.addProperty property) (Class.placeholder shadowKey cppType) ≠ none :=
        Option.some_ne_none _
      refine (left_inClass_eq_iff accepts refused).trans ?_
      simp only [BringsGetter, not_exists, not_and]
      refine forall_congr' fun owner => forall_congr' fun finds => ?_
      have refusedByOwner := finds.refused refused
      rw [AllOrNothing, ← Class.left_addProperty_eq_iff refusedByOwner]
      exact forall_prop_of_true refusedByOwner
  | _ => exact iff_of_true (allOrNothing_perform model nofun refused) not_false

/-- A reference to a known type under a second shadow key leaves the model as it was. -/
theorem left_crateReference :
    let declared := left boxDeclaration.perform empty
    after? crateReference.perform declared = none ∧
      (left crateReference.perform declared = declared ↔
        ¬ crateReference.BringsGetter declared) ∧
      ¬ crateReference.BringsGetter declared :=
  ⟨by decide, left_perform_of_refused (by decide), not_false⟩

/-- The size of a box, read and written. -/
def sizeProperty : Property :=
  { name := "size", doc := none, getterType := some (.plain "int")
    setterType := some (.plain "int"), setterParameter := some "size"
    location := ⟨"box.cpp", 3, 1⟩ }

/-- The registration of a property of the box. -/
def boxProperty
    (property : Property) :
    Registration :=
  .addProperty "Shadow<Box>" (.plain "Box") ⟨"box.cpp", 2, 1⟩ property

/-- A box whose size can be written only, and that is then refused a second setter, has a getter
that it did not have before. -/
theorem refused_setter_leaves_getter :
    let declared := left boxDeclaration.perform empty
    let writable := left (boxProperty { sizeProperty with getterType := none }).perform declared
    let refused := left (boxProperty sizeProperty).perform writable
    Reachable writable ∧
      after? (boxProperty sizeProperty).perform writable = none ∧
      (Interchange.encodeModel refused).compact ≠ (Interchange.encodeModel writable).compact := by
  intro declared writable refused
  have differ :
      (Interchange.encodeModel refused).write ≠ (Interchange.encodeModel writable).write := by
    decide +kernel
  exact ⟨.register _ (.register _ .empty), by decide, fun same =>
    differ (String.ofList_injective same)⟩

end Registration

end BindingStubs
