import BindingStubs.Proofs.Model.Interchange
import BindingStubs.Proofs.Model.Lookup
import BindingStubs.Proofs.Naming.Walk

namespace BindingStubs.BindingModel

/-!
# Every reachable model is indexed

A model is reached from the empty one by registrations, merges, the assignment of names, the
flagging and dropping of imported entities, and by writing and reading it.  Whatever order these
come in, and whether or not they are refused, the tables mirror the lists.
-/

open Change

/-- The models that are reached from the empty one.  A step that is refused leads to what it
leaves behind. -/
inductive Reachable : BindingModel → Prop where
  | empty : Reachable empty
  | register {model : BindingModel} (registration : Registration) :
      Reachable model → Reachable (left registration.perform model)
  | merge {model incoming : BindingModel} :
      Reachable model → Reachable incoming → Reachable (left incoming.merge model)
  | assignNames {model : BindingModel} (package : Option String) :
      Reachable model → Reachable (left (BindingModel.assignNames package) model)
  | markImported {model : BindingModel} : Reachable model → Reachable model.markImported
  | retainLocal {model : BindingModel} : Reachable model → Reachable model.retainLocal
  | reindex {model : BindingModel} : Reachable model → Reachable model.reindex
  | readBack {model read : BindingModel} {text : String} {value : Json} :
      Reachable model →
      text = (Interchange.encodeModel model).compact ∨
        text = (Interchange.encodeModel model).pretty →
      Json.parse? text.toList = some value →
      Interchange.decodeModel value = some read →
      Reachable read.reindex
  | load {artifact loaded : Artifact} :
      Reachable artifact.model →
      Artifact.ofText? artifact.text = some loaded →
      Reachable loaded.model

/-- Lookups find the one entity with a key, and both tables of classes lead to the same place. -/
structure LooksUp
    (model : BindingModel) : Prop where
  module? :
    ∀ cppName entity,
      model.module? cppName = some entity ↔ entity ∈ model.modules ∧ entity.cppName = cppName
  class? :
    ∀ shadowKey entity,
      model.class? shadowKey = some entity ↔
        entity ∈ model.classes ∧ entity.shadowKey = shadowKey
  classForType? :
    ∀ cppType entity,
      model.classForType? cppType = some entity ↔
        entity ∈ model.classes ∧ entity.cppType = cppType
  enum? :
    ∀ cppName entity,
      model.enum? cppName = some entity ↔ entity ∈ model.enums ∧ entity.cppName = cppName
  agree :
    ∀ entity ∈ model.classes,
      ∃ position,
        model.classes[position]? = some entity ∧
          model.classPositions.get? entity.shadowKey = some position ∧
          model.classTypePosition? entity.cppType = some position

theorem Indexed.looksUp
    {model : BindingModel}
    (indexed : Indexed model) :
    LooksUp model where
  module? _ _ := indexed.modules.lookup_iff
  class? _ _ := indexed.classes.lookup_iff
  classForType? _ _ := indexed.classTypes.lookup_iff
  enum? _ _ := indexed.enums.lookup_iff
  agree entity member := by
    obtain ⟨position, atPosition⟩ := List.mem_iff_getElem?.mp member
    refine ⟨position, atPosition, ?_, ?_⟩
    · rw [indexed.classes.leads, List.getElem?_map, atPosition]
      rfl
    · rw [indexed.classTypes.leads, List.getElem?_map, atPosition]
      rfl

/-! ## Steps -/

/-- Filling in names changes no key. -/
theorem FillsNames.indexed
    {allowed : NameSlot → Prop}
    {before after : BindingModel}
    (fills : FillsNames allowed before after)
    (indexed : Indexed before) :
    Indexed after := by
  have others := fills.others
  simp only [mk.injEq] at others
  obtain ⟨_, _, _, _, sameModules, sameClasses, sameTypes, sameEnums⟩ := others
  refine indexed.of_same_keys (fills.modules.map_eq ?_) (fills.classes.map_eq ?_)
    (fills.classes.map_eq ?_) (fills.enums.map_eq ?_) sameModules sameClasses sameTypes sameEnums
  all_goals
    rintro former changed (rfl | ⟨_, given, rfl⟩)
    · rfl
    · rfl

theorem Indexed.markImported
    {model : BindingModel}
    (indexed : Indexed model) :
    Indexed model.markImported := by
  refine indexed.of_same_keys ?_ ?_ ?_ ?_ rfl rfl rfl rfl
  all_goals simp [BindingModel.markImported, Function.comp_def]

/-- Dropping entities makes no key occur twice. -/
theorem Indexed.retainLocal
    {model : BindingModel}
    (indexed : Indexed model) :
    Indexed model.retainLocal :=
  indexed_reindex
    (indexed.modules.distinct.sublist (List.filter_sublist.map _))
    (indexed.classes.distinct.sublist (List.filter_sublist.map _))
    (indexed.classTypes.distinct.sublist (List.filter_sublist.map _))
    (indexed.enums.distinct.sublist (List.filter_sublist.map _))

theorem Indexed.reindex
    {model : BindingModel}
    (indexed : Indexed model) :
    Indexed model.reindex :=
  indexed_reindex indexed.modules.distinct indexed.classes.distinct indexed.classTypes.distinct
    indexed.enums.distinct

/-- A model that is written and read has the keys that it had. -/
theorem Indexed.asRead
    {model : BindingModel}
    (indexed : Indexed model) :
    Indexed model.asRead.reindex := by
  refine indexed_reindex ?_ ?_ ?_ ?_
  · simpa [BindingModel.asRead, Function.comp_def, Module.asRead] using indexed.modules.distinct
  · simpa [BindingModel.asRead, Function.comp_def, Class.asRead] using indexed.classes.distinct
  · simpa [BindingModel.asRead, Function.comp_def, Class.asRead] using indexed.classTypes.distinct
  · simpa [BindingModel.asRead, Function.comp_def, Enumeration.asRead] using indexed.enums.distinct

/-- In every reachable model the tables mirror the lists, so that lookups find the one entity
with a key. -/
theorem reachable_indexed
    {model : BindingModel}
    (reachable : Reachable model) :
    Indexed model ∧ LooksUp model := by
  suffices indexed : Indexed model from ⟨indexed, indexed.looksUp⟩
  induction reachable with
  | empty => exact indexed_empty
  | register registration _ inductionHypothesis =>
      exact registration.preserves_indexed_perform _ inductionHypothesis
  | merge _ _ inductionHypothesis _ =>
      exact preserves_indexed_merge _ _ inductionHypothesis
  | assignNames package _ inductionHypothesis =>
      exact (settles_assignNames package _).within.indexed inductionHypothesis
  | markImported _ inductionHypothesis => exact inductionHypothesis.markImported
  | retainLocal _ inductionHypothesis => exact inductionHypothesis.retainLocal
  | reindex _ inductionHypothesis => exact inductionHypothesis.reindex
  | @readBack model read text value _ isText parsed decoded inductionHypothesis =>
      have plain := Interchange.plain_encodeModel model
      have reread : value = Json.reread (Interchange.encodeModel model) := by
        rcases isText with rfl | rfl
        · rw [Json.parse?_compact plain] at parsed
          exact (Option.some.inj parsed).symm
        · rw [Json.parse?_pretty plain] at parsed
          exact (Option.some.inj parsed).symm
      rw [reread] at decoded
      rw [Interchange.readsAs_model model read decoded]
      exact inductionHypothesis.asRead
  | @load artifact loaded _ isLoaded inductionHypothesis =>
      rw [(Artifact.ofText?_text isLoaded).2.1]
      exact inductionHypothesis.asRead

/-- The declaration of a box. -/
def boxDeclaration : Registration :=
  .declareClass "Shadow<Box>" (.plain "Box") "Box" none none ⟨"box.cpp", 1, 1⟩

/-- A second shadow key for the type of the box. -/
def crateReference : Registration :=
  .referToClass "Shadow<Crate>" (.plain "Box") ⟨"crate.cpp", 1, 1⟩

/-- A class under a second shadow key is refused, and the tables still mirror the lists. -/
theorem reachable_indexed_after_conflict :
    let declared := left boxDeclaration.perform empty
    let refused := left crateReference.perform declared
    Reachable refused.retainLocal ∧
      after? crateReference.perform declared = none ∧
      (refused.retainLocal.class? "Shadow<Box>").isSome ∧
      refused.retainLocal.Indexed ∧ refused.retainLocal.LooksUp := by
  intro declared refused
  have reachable : Reachable refused.retainLocal :=
    .retainLocal (.register crateReference (.register boxDeclaration .empty))
  exact ⟨reachable, by decide, by decide, reachable_indexed reachable⟩

end BindingStubs.BindingModel
