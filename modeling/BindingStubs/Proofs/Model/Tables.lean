import BindingStubs.Model.Basic
import BindingStubs.Proofs.Keyed
import Mathlib.Data.List.Induction

namespace BindingStubs.BindingModel

/-!
# Lookup tables

While the keys of a list of entities are distinct, its table leads from a key to the first
entity with that key.  A table depends on the keys alone, and a new entity at the end of the
list is one more entry.
-/

/-- With distinct keys, the last entity is the first one with its key. -/
theorem findIdx?_append_of_distinct
    {Entity Key : Type}
    [DecidableEq Key]
    {key : Entity → Key}
    {entities : List Entity}
    {entity : Entity}
    (distinct : ((entities ++ [entity]).map key).Nodup)
    (wanted : Key) :
    ((entities ++ [entity]).findIdx? fun entity => key entity == wanted) =
      if wanted = key entity then some entities.length
      else entities.findIdx? fun entity => key entity == wanted := by
  rw [List.findIdx?_append]
  split
  · rename_i same
    subst same
    have absent : (entities.findIdx? fun former => key former == key entity) = none := by
      rw [List.findIdx?_eq_none_iff]
      intro former member
      rw [List.map_append, List.nodup_append] at distinct
      simpa using distinct.2.2 (key former) (List.mem_map_of_mem member) (key entity) (by simp)
    simp [absent]
  · rename_i differs
    have unmatched : (key entity == wanted) = false := by
      simpa using Ne.symm differs
    simp [unmatched]

/-- Replacing an entity by one with the same key leaves the keys as they are. -/
theorem map_set_of_same_key
    {Entity Key : Type}
    {key : Entity → Key}
    {entities : List Entity}
    {position : Nat}
    {former changed : Entity}
    (atPosition : entities[position]? = some former)
    (sameKey : key changed = key former) :
    (entities.set position changed).map key = entities.map key := by
  obtain ⟨inRange, isFormer⟩ := List.getElem?_eq_some_iff.mp atPosition
  rw [List.map_set, sameKey, ← isFormer, ← List.getElem_map key (h := by simpa using inRange)]
  exact List.set_getElem_self _

/-- What is found at a position has the property that was looked for. -/
theorem holds_of_findIdx?_eq_some
    {Entity : Type}
    {p : Entity → Bool}
    {entities : List Entity}
    {position : Nat}
    {former : Entity}
    (found : entities.findIdx? p = some position)
    (atPosition : entities[position]? = some former) :
    p former = true := by
  obtain ⟨_, holds, _⟩ := List.findIdx?_eq_some_iff_getElem.mp found
  obtain ⟨_, rfl⟩ := List.getElem?_eq_some_iff.mp atPosition
  exact holds

/-- What is found first by a wide property is found first by a narrower one that it has. -/
theorem findIdx?_of_narrower
    {Entity : Type}
    {wide narrow : Entity → Bool}
    {entities : List Entity}
    {position : Nat}
    {former : Entity}
    (narrower : ∀ entity, narrow entity = true → wide entity = true)
    (found : entities.findIdx? wide = some position)
    (atPosition : entities[position]? = some former)
    (holds : narrow former = true) :
    entities.findIdx? narrow = some position := by
  obtain ⟨inRange, _, earlier⟩ := List.findIdx?_eq_some_iff_getElem.mp found
  obtain ⟨_, rfl⟩ := List.getElem?_eq_some_iff.mp atPosition
  refine List.findIdx?_eq_some_iff_getElem.mpr ⟨inRange, holds, ?_⟩
  intro other isEarlier otherHolds
  exact earlier other isEarlier (narrower _ otherHolds)

section Named

variable {Entity : Type} {key : Entity → String}

/-- A table is built from the keys. -/
theorem positionsBy_eq_ofList
    (key : Entity → String)
    (entities : List Entity) :
    positionsBy key entities = Keyed.ofList (entities.map key).zipIdx := by
  rw [positionsBy, List.zipIdx_map]
  rfl

/-- Lists with the same keys have the same table. -/
theorem positionsBy_congr
    {entities entities' : List Entity}
    (sameKeys : entities.map key = entities'.map key) :
    positionsBy key entities = positionsBy key entities' := by
  rw [positionsBy_eq_ofList, positionsBy_eq_ofList, sameKeys]

/-- A new entity is one more entry. -/
theorem positionsBy_append
    (key : Entity → String)
    (entities : List Entity)
    (entity : Entity) :
    positionsBy key (entities ++ [entity]) =
      (positionsBy key entities).insert (key entity) entities.length := by
  simp [positionsBy, Keyed.ofList, List.zipIdx_append, List.foldl_append]

/-- A table leads to the first entity with a key. -/
theorem get?_positionsBy
    {entities : List Entity}
    (distinct : (entities.map key).Nodup)
    (name : String) :
    (positionsBy key entities).get? name =
      entities.findIdx? fun entity => key entity == name := by
  induction entities using List.reverseRecOn with
  | nil => rfl
  | append_singleton entities entity inductionHypothesis =>
      have entitiesDistinct : (entities.map key).Nodup :=
        distinct.sublist ((List.sublist_append_left ..).map key)
      rw [positionsBy_append, Keyed.get?_insert, findIdx?_append_of_distinct distinct,
        inductionHypothesis entitiesDistinct]

end Named

/-- A new class is the first entry. -/
theorem positionsByType_append
    (classes : List Class)
    (entity : Class) :
    positionsByType (classes ++ [entity]) =
      (entity.cppType, classes.length) :: positionsByType classes := by
  simp [positionsByType, List.zipIdx_append, List.foldl_append]

/-- Classes of the same types have the same table. -/
theorem positionsByType_congr
    {classes classes' : List Class}
    (sameTypes : classes.map Class.cppType = classes'.map Class.cppType) :
    positionsByType classes = positionsByType classes' := by
  have fromTypes :
      ∀ classes : List Class,
        positionsByType classes =
          (classes.map Class.cppType).zipIdx.foldl (fun table entry => entry :: table) [] := by
    intro classes
    simp [positionsByType, List.zipIdx_map, List.foldl_map]
  rw [fromTypes, fromTypes, sameTypes]

/-- The table of types leads to the first class of a type. -/
theorem lookup_positionsByType
    {classes : List Class}
    (distinct : (classes.map Class.cppType).Nodup)
    (cppType : CppType) :
    (positionsByType classes).lookup cppType =
      classes.findIdx? fun entity => entity.cppType == cppType := by
  induction classes using List.reverseRecOn with
  | nil => rfl
  | append_singleton classes entity inductionHypothesis =>
      have classesDistinct : (classes.map Class.cppType).Nodup :=
        distinct.sublist ((List.sublist_append_left ..).map Class.cppType)
      rw [positionsByType_append, findIdx?_append_of_distinct distinct,
        ← inductionHypothesis classesDistinct, List.lookup_cons]
      by_cases same : cppType = entity.cppType
      · simp [same]
      · have unmatched : (cppType == entity.cppType) = false := by
          simpa using same
        simp [same, unmatched]

end BindingStubs.BindingModel
