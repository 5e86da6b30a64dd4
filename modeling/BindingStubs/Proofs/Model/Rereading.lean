import BindingStubs.Proofs.Model.Contents
import BindingStubs.Proofs.Model.Interchange

namespace BindingStubs

/-!
# What valid models are read back as

Valid descriptions have distinct keys wherever they have keys, since their members are taken in one
by one.  So nothing is lost when they are written and read, if the values of enums have distinct
names as well.
-/

/-- Entries with distinct keys are inserted one behind the other. -/
theorem Keyed.asRead_eq
    {α : Type}
    {keyed : Keyed α}
    (distinct : keyed.keys.Nodup) :
    keyed.asRead = keyed := by
  obtain ⟨entries⟩ := keyed
  rw [asRead, ofList]
  induction entries using List.reverseRecOn with
  | nil => rfl
  | append_singleton entries entry inductionHypothesis =>
      simp only [keys, List.map_append, List.map_cons, List.map_nil] at distinct
      obtain ⟨former, _, fresh⟩ := List.nodup_append.mp distinct
      have absent : entry.1 ∉ entries.map Prod.fst := fun member =>
        fresh entry.1 member entry.1 (List.mem_singleton.mpr rfl) rfl
      rw [List.foldl_append, inductionHypothesis former, List.foldl_cons, List.foldl_nil, insert,
        insertEntry_of_not_mem absent]

/-- Distinct sources are inserted one behind the other. -/
theorem foldl_insertSource_eq
    {sources : List CppType}
    (distinct : sources.Nodup) :
    sources.foldl insertSource [] = sources := by
  induction sources using List.reverseRecOn with
  | nil => rfl
  | append_singleton sources source inductionHypothesis =>
      obtain ⟨former, _, fresh⟩ := List.nodup_append.mp distinct
      have absent : source ∉ sources := fun member =>
        fresh source member source (List.mem_singleton.mpr rfl) rfl
      rw [List.foldl_append, inductionHypothesis former]
      simp [insertSource, absent]

theorem Module.asRead_eq
    {entity : Module}
    (valid : joining.Valid entity) :
    entity.asRead = entity := by
  obtain ⟨_, classes, enums, functions, constants⟩ := valid_iff.mp valid
  rw [asRead, Keyed.asRead_eq classes.nodup_keys, Keyed.asRead_eq enums.nodup_keys,
    Keyed.asRead_eq functions.nodup_keys, Keyed.asRead_eq constants.nodup_keys]

theorem Class.asRead_eq
    {entity : Class}
    (valid : joining.Valid entity) :
    entity.asRead = entity := by
  obtain ⟨_, classes, enums, methods, properties, constants, sources⟩ := valid_iff.mp valid
  have distinctSources : entity.implicitSources.Nodup := by
    refine sources.apart.imp ?_
    intro first second apart
    simpa [Members.sources, Joining.repeating] using apart
  rw [asRead, Keyed.asRead_eq classes.nodup_keys, Keyed.asRead_eq enums.nodup_keys,
    Keyed.asRead_eq methods.nodup_keys, Keyed.asRead_eq properties.nodup_keys,
    Keyed.asRead_eq constants.nodup_keys, foldl_insertSource_eq distinctSources]

/-- An enum that is not declared has no values to be read. -/
theorem Enumeration.valid_asRead
    {entity : Enumeration}
    (valid : joining.Valid entity) :
    joining.Valid entity.asRead := by
  refine valid_iff.mpr fun undeclared => ?_
  have blank := valid_iff.mp valid undeclared
  simp only [Prod.mk.injEq] at blank
  simp [asRead, blank]
  rfl

namespace BindingModel

/-- What registrations build is read back, if the values of its enums have distinct names. -/
theorem asRead_ofContents
    {whole : Contents}
    (valid : contents.Valid whole)
    (distinctValues : ∀ entity ∈ whole.2.2.1, entity.values.keys.Nodup) :
    (ofContents whole).asRead.reindex = ofContents whole := by
  obtain ⟨modules, classes, _, buckets⟩ := valid_contents_iff.mp valid
  have sameModules : whole.1.map Module.asRead = whole.1 :=
    (List.map_congr_left fun entity member =>
      Module.asRead_eq (modules.valid entity member)).trans (List.map_id' _)
  have sameClasses : whole.2.1.map Class.asRead = whole.2.1 :=
    (List.map_congr_left fun entity member =>
      Class.asRead_eq (classes.valid entity member)).trans (List.map_id' _)
  have sameEnums : whole.2.2.1.map Enumeration.asRead = whole.2.2.1 := by
    refine (List.map_congr_left fun entity member => ?_).trans (List.map_id' _)
    rw [Enumeration.asRead, Keyed.asRead_eq (distinctValues entity member)]
  have sameRules : (⟨whole.2.2.2⟩ : Keyed (List TypeRule)).asRead = ⟨whole.2.2.2⟩ :=
    Keyed.asRead_eq buckets.nodup_keys
  simp only [ofContents, reindex, asRead, sameModules, sameClasses, sameEnums, sameRules]

/-- The values of every enum have distinct names. -/
def DistinctValues
    (model : BindingModel) :
    Prop :=
  ∀ entity ∈ model.enums, entity.values.keys.Nodup

end BindingModel

end BindingStubs
