import BindingStubs.Proofs.Model.ClassDescription
import BindingStubs.Proofs.Model.EnumDescription
import BindingStubs.Proofs.Model.Tables

namespace BindingStubs.BindingModel

/-!
# Models and their contents

A model that was built by registrations is determined by its modules, classes, enums and
rules: the lookup tables are those of its lists.  A change of an entity, which is found
through the tables or created, is taking one description into the list of the entities.
-/

/-- The modules, classes, enums and rule buckets of a model. -/
abbrev Contents :=
  List Module × List Class × List Enumeration × List (String × List TypeRule)

/-- Contents are combined kind by kind. -/
def contents : Combining Contents :=
  Module.joining.listing.prod
    (Class.joining.listing.prod
      (Enumeration.joining.listing.prod Members.buckets.listing))

/-- The model with given contents. -/
def ofContents
    (whole : Contents) :
    BindingModel :=
  reindex
    { modules := whole.1
      classes := whole.2.1
      enums := whole.2.2.1
      rules := ⟨whole.2.2.2⟩ }

@[simp] theorem ofContents_modules
    (whole : Contents) :
    (ofContents whole).modules = whole.1 :=
  rfl

@[simp] theorem ofContents_classes
    (whole : Contents) :
    (ofContents whole).classes = whole.2.1 :=
  rfl

@[simp] theorem ofContents_enums
    (whole : Contents) :
    (ofContents whole).enums = whole.2.2.1 :=
  rfl

theorem lawful_contents : contents.Lawful :=
  Module.lawful_joining.listing.prod
    (Class.lawful_joining.listing.prod
      (Enumeration.lawful_joining.listing.prod Members.lawful_buckets.listing))

def nothing : Contents := ([], [], [], [])

theorem ofContents_nothing : ofContents nothing = empty := rfl

theorem neutral_nothing : contents.Neutral nothing :=
  (Combining.neutral_nil _).prod
    ((Combining.neutral_nil _).prod
      ((Combining.neutral_nil _).prod (Combining.neutral_nil _)))

theorem valid_contents_iff
    {whole : Contents} :
    contents.Valid whole ↔
      Module.joining.Tidy whole.1 ∧
        Class.joining.Tidy whole.2.1 ∧
        Enumeration.joining.Tidy whole.2.2.1 ∧
        Members.buckets.Tidy whole.2.2.2 :=
  Iff.rfl

/-- A change of the entity at a position leads to the list with the changed entity. -/
theorem after?_changeAt
    {Entity Result : Type}
    (entities : BindingModel → List Entity)
    (rebuild : BindingModel → List Entity → BindingModel)
    (position : Nat)
    (change : Change Entity Result)
    (model : BindingModel) :
    Change.after?
        (fun model => changeAt (entities model) position (rebuild model) change) model =
      (entities model)[position]?.bind fun entity =>
        (Change.after? change entity).map fun changed =>
          rebuild model ((entities model).set position changed) := by
  cases found : (entities model)[position]? with
  | none => simp [Change.after?, changeAt, found]
  | some entity =>
      cases outcome : change entity <;> simp [Change.after?, changeAt, found, outcome]

section Entering

variable
  {Entity Key : Type}
  {joining : Joining Entity}
  {key : Entity → Key}
  {blank : Key → Entity}

/--
How an entity of a given key is entered into a model with given entities: it is created at
the end when it meets none of them, found when the first one that it meets has its key, and
refused otherwise.
-/
structure Enters
    (joining : Joining Entity)
    (key : Entity → Key)
    (blank : Key → Entity)
    (rebuild : List Entity → BindingModel)
    (entities : List Entity)
    (entityKey : Key)
    (enter : Registering Nat) : Prop where
  absent :
    entities.findIdx? (joining.meets · (blank entityKey)) = none →
    enter (rebuild entities) =
      .ok entities.length (rebuild (entities ++ [blank entityKey]))
  present :
    ∀ {position former},
      entities.findIdx? (joining.meets · (blank entityKey)) = some position →
      entities[position]? = some former →
      key former = entityKey →
      enter (rebuild entities) = .ok position (rebuild entities)
  conflict :
    ∀ {position former},
      entities.findIdx? (joining.meets · (blank entityKey)) = some position →
      entities[position]? = some former →
      key former ≠ entityKey →
      Change.after? enter (rebuild entities) = none

/-- Entities that meet only under the same key are never refused. -/
theorem Enters.of_match
    {rebuild : List Entity → BindingModel}
    {entities : List Entity}
    {entityKey : Key}
    {enter : Registering Nat}
    (key_eq_of_meets :
      ∀ {former}, joining.meets former (blank entityKey) = true → key former = entityKey)
    (entry :
      enter (rebuild entities) =
        match entities.findIdx? (joining.meets · (blank entityKey)) with
        | some position => .ok position (rebuild entities)
        | none => .ok entities.length (rebuild (entities ++ [blank entityKey]))) :
    Enters joining key blank rebuild entities entityKey enter where
  absent found := by
    rw [entry, found]
  present found _ _ := by
    rw [entry, found]
  conflict {position former} found atPosition differs := by
    obtain ⟨former', _, atPosition', met, _⟩ := Joining.insert?_of_findIdx?_eq_some found
    obtain rfl : former' = former := Option.some.inj (atPosition'.symm.trans atPosition)
    exact absurd (key_eq_of_meets met) differs

/-- Entering an entity is taking in a blank description of it. -/
theorem after?_enter
    (identified : joining.Identified key blank)
    {rebuild : List Entity → BindingModel}
    {entities : List Entity}
    {entityKey : Key}
    {enter : Registering Nat}
    (enters : Enters joining key blank rebuild entities entityKey enter) :
    Change.after? enter (rebuild entities) =
      (joining.insert? (blank entityKey) entities).map rebuild := by
  cases found : entities.findIdx? (joining.meets · (blank entityKey)) with
  | none =>
      rw [Change.after?_of_ok (enters.absent found),
        Joining.insert?_of_findIdx?_eq_none found]
      rfl
  | some position =>
      obtain ⟨former, _, atPosition, _, inserted⟩ :=
        Joining.insert?_of_findIdx?_eq_some found
      rw [inserted]
      by_cases sameKey : key former = entityKey
      · obtain ⟨inRange, isFormer⟩ := List.getElem?_eq_some_iff.mp atPosition
        rw [Change.after?_of_ok (enters.present found atPosition sameKey), ← sameKey,
          identified.combine?_blank former, ← isFormer]
        simp
      · have apart : joining.combine? former (blank entityKey) = none := by
          rw [Option.eq_none_iff_forall_ne_some]
          intro joined combined
          refine sameKey ((identified.key_eq_of_combine? combined).1.trans ?_)
          exact identified.key_blank entityKey
        rw [enters.conflict found atPosition sameKey, apart]
        rfl

/-- Changing an entity after entering it is taking in what the change adds. -/
theorem after?_enter_bind
    (identified : joining.Identified key blank)
    {rebuild : List Entity → BindingModel}
    {entities : List Entity}
    {enter : Registering Nat}
    {change : Change Entity Unit}
    {addition : Entity}
    {next : Nat → Registering Unit}
    (tidy : joining.Tidy entities)
    (enters : Enters joining key blank rebuild entities (key addition) enter)
    (adds : Adds joining key change addition)
    (after?_next :
      ∀ {entities position former},
        entities[position]? = some former →
        (∀ changed, Change.after? change former = some changed → key changed = key former) →
        Change.after? (next position) (rebuild entities) =
          (Change.after? change former).map fun changed =>
            rebuild (entities.set position changed)) :
    Change.after? (enter >>= next) (rebuild entities) =
      (joining.insert? addition entities).map rebuild := by
  have sameMeets :
      (joining.meets · addition) = (joining.meets · (blank (key addition))) :=
    funext (identified.meets_of_key_eq (identified.key_blank _).symm)
  have keyKept :
      ∀ {former changed},
        joining.Valid former →
        key former = key addition →
        Change.after? change former = some changed →
        key changed = key former := by
    intro former changed formerValid sameKey reached
    rw [adds.after? formerValid sameKey] at reached
    exact (identified.key_eq_of_combine? reached).2
  cases found : entities.findIdx? (joining.meets · addition) with
  | none =>
      have blankValid := identified.valid_blank (key addition)
      have blankKey := identified.key_blank (key addition)
      rw [Joining.insert?_of_findIdx?_eq_none found]
      rw [sameMeets] at found
      rw [Change.after?_bind_of_ok (enters.absent found),
        after?_next (List.getElem?_concat_length ..)
          (fun changed => keyKept blankValid blankKey),
        adds.after? blankValid blankKey, identified.blank_combine? adds.valid]
      simp
  | some position =>
      obtain ⟨former, member, atPosition, _, inserted⟩ :=
        Joining.insert?_of_findIdx?_eq_some found
      rw [inserted]
      rw [sameMeets] at found
      by_cases sameKey : key former = key addition
      · have formerValid := tidy.valid former member
        rw [Change.after?_bind_of_ok (enters.present found atPosition sameKey),
          after?_next atPosition (fun changed => keyKept formerValid sameKey),
          adds.after? formerValid sameKey, Option.map_map]
        rfl
      · have apart : joining.combine? former addition = none := by
          rw [Option.eq_none_iff_forall_ne_some]
          intro joined combined
          exact sameKey (identified.key_eq_of_combine? combined).1
        rw [Change.after?_bind_of_eq_none (enters.conflict found atPosition sameKey), apart]
        rfl

end Entering

end BindingStubs.BindingModel
