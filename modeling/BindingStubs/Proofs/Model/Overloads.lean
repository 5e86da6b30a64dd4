import BindingStubs.Proofs.Model.Soundness

namespace BindingStubs

/-!
# No group of methods is empty

A group of overloads is made when its first overload is added, and nothing removes overloads.  So
every name under which a reachable model keeps methods of a class has a method to render.
-/

open BindingModel Change

/-- Groups that each have an overload. -/
def Keyed.EachFilled
    (groups : Keyed (List Callable)) :
    Prop :=
  ∀ entry ∈ groups.entries, entry.2 ≠ []

theorem Keyed.EachFilled.appendOverloads
    {groups : Keyed (List Callable)}
    (filled : groups.EachFilled)
    (name : String)
    {overloads : List Callable}
    (nonempty : overloads ≠ []) :
    (appendOverloads groups name overloads).EachFilled := by
  intro entry member
  rcases Keyed.mem_entries_insert member with former | rfl
  · exact filled entry former
  · exact List.append_ne_nil_of_right_ne_nil _ nonempty

theorem Keyed.EachFilled.appendGroups
    {groups incoming : Keyed (List Callable)}
    (filled : groups.EachFilled)
    (incomingFilled : incoming.EachFilled) :
    (appendGroups groups incoming).EachFilled := by
  rw [BindingModel.appendGroups]
  rw [EachFilled] at incomingFilled
  generalize incoming.entries = entries at incomingFilled
  induction entries generalizing groups with
  | nil => exact filled
  | cons entry rest inductionHypothesis =>
      obtain ⟨first, others⟩ := List.forall_mem_cons.mp incomingFilled
      exact inductionHypothesis (filled.appendOverloads entry.1 first) others

namespace Class

/-- A class whose methods are in groups that each have an overload. -/
def Filled
    (entity : Class) :
    Prop :=
  entity.methods.EachFilled

/-- A change that keeps the methods keeps classes filled. -/
theorem preserves_filled_of_keeps
    {Result : Type}
    {change : Change Class Result}
    (keeps : Keeps methods change) :
    Preserves Filled change := by
  intro entity filled
  rw [Filled, keeps entity.methods entity rfl]
  exact filled

theorem IsEdit.preserves_filled
    {change : Change Class Unit}
    (edit : IsEdit change) :
    Preserves Filled change := by
  cases edit with
  | declare => exact preserves_declare _ _ _ _ fun _ filled => filled
  | addMethod name method =>
      exact preserves_modify fun _ filled =>
        Keyed.EachFilled.appendOverloads filled name (List.cons_ne_nil _ _)
  | addConstructor => exact preserves_modify fun _ filled => filled
  | addProperty property => exact preserves_filled_of_keeps (keeps_addProperty property)
  | addConstant constant => exact preserves_filled_of_keeps (keeps_addConstant constant)
  | addClass key location => exact preserves_filled_of_keeps (keeps_addClass key location)
  | addEnum key location => exact preserves_filled_of_keeps (keeps_addEnum key location)
  | addImplicitSource source =>
      exact preserves_filled_of_keeps (keeps_addImplicitSource source)

theorem preserves_filled_absorb
    {incoming : Class}
    (incomingFilled : incoming.Filled) :
    Preserves Filled incoming.absorb :=
  preserves_absorb incoming (fun _ _ filled => filled) (fun _ _ filled => filled)
    (fun _ filled => Keyed.EachFilled.appendGroups filled incomingFilled)
    fun edit => edit.preserves_filled

end Class

namespace BindingModel

/-- A model in which all classes are filled. -/
def Filled
    (model : BindingModel) :
    Prop :=
  ∀ entity ∈ model.classes, entity.Filled

theorem preserves_filled_inModule
    (cppName : String)
    (change : Change Module Unit) :
    Preserves Filled (inModule cppName change) :=
  preserves_inModule (fun _ _ _ filled => filled) cppName change

theorem preserves_filled_inEnum
    (cppName : String)
    (change : Change Enumeration Unit) :
    Preserves Filled (inEnum cppName change) :=
  preserves_inEnum (fun _ _ _ filled => filled) cppName change

/-- A placeholder has no methods. -/
theorem preserves_filled_classEntry
    (shadowKey : String)
    (cppType : CppType)
    (location : Location) :
    Preserves Filled (classEntry shadowKey cppType location) :=
  preserves_classEntry_of_new shadowKey cppType location fun filled _ _ =>
    List.forall_mem_append.mpr ⟨filled, List.forall_mem_singleton.mpr nofun⟩

theorem preserves_filled_inClass
    (shadowKey : String)
    (cppType : CppType)
    (location : Location)
    {change : Change Class Unit}
    (keeps : Preserves Class.Filled change) :
    Preserves Filled (inClass shadowKey cppType location change) := by
  refine (preserves_filled_classEntry shadowKey cppType location).bind fun position => ?_
  refine preserves_onClass position fun filled found other member => ?_
  rcases List.mem_or_eq_of_mem_set member with former | rfl
  · exact filled other former
  · exact keeps _ (filled _ (List.mem_of_getElem? found))

theorem preserves_filled_addRule
    (rule : TypeRule) :
    Preserves Filled (addRule rule) := by
  intro model filled
  obtain ⟨rules, reached⟩ := left_addRule rule model
  rw [reached]
  exact filled

/-- A registration keeps a model filled, also when it is refused. -/
theorem preserves_filled_perform
    (registration : Registration) :
    Preserves Filled registration.perform := by
  refine registration.preserves_perform
    (preserves_moduleEntry fun _ _ _ filled => filled) preserves_filled_classEntry
    (preserves_enumEntry fun _ _ _ filled => filled) ?_ ?_ ?_ ?_
  · exact fun cppName change _ => preserves_filled_inModule cppName change
  · exact fun shadowKey cppType location _ edit =>
      preserves_filled_inClass shadowKey cppType location edit.preserves_filled
  · exact fun cppName _ _ _ _ _ => preserves_filled_inEnum cppName _
  · exact fun rule _ => preserves_filled_addRule rule

/-- Merging a filled model keeps a model filled, wherever it is refused. -/
theorem preserves_filled_merge
    {incoming : BindingModel}
    (incomingFilled : incoming.Filled) :
    Preserves Filled incoming.merge := by
  refine preserves_merge ?_ ?_ ?_ fun rule _ => preserves_filled_addRule rule
  · exact fun _ _ => preserves_filled_inModule _ _
  · exact fun entity member => preserves_filled_inClass _ _ _
      (Class.preserves_filled_absorb (incomingFilled entity member))
  · exact fun _ _ => preserves_filled_inEnum _ _

/-- Models whose classes have the same methods are filled alike. -/
theorem Filled.of_same_methods
    {model changed : BindingModel}
    (filled : model.Filled)
    (sameMethods : changed.classes.map Class.methods = model.classes.map Class.methods) :
    changed.Filled := by
  have each : ∀ methods ∈ model.classes.map Class.methods, methods.EachFilled :=
    List.forall_mem_map.mpr filled
  rw [← sameMethods] at each
  exact fun entity member => each _ (List.mem_map_of_mem member)

theorem Filled.retainLocal
    {model : BindingModel}
    (filled : model.Filled) :
    model.retainLocal.Filled :=
  fun entity member => filled entity (List.mem_of_mem_filter member)

/-- A sound model that is written and read has the methods that it had. -/
theorem Filled.asRead
    {model : BindingModel}
    (filled : model.Filled)
    (sound : model.Sound) :
    model.asRead.reindex.Filled := by
  obtain ⟨_, classes, _⟩ := valid_contents_iff.mp sound.valid
  refine List.forall_mem_map.mpr fun entity member => ?_
  rw [Class.asRead_eq (classes.valid entity member)]
  exact filled entity member

/-- In every reachable model, no group of methods is empty. -/
theorem Reachable.filled
    {model : BindingModel}
    (reachable : Reachable model) :
    model.Filled := by
  induction reachable with
  | empty => exact nofun
  | register registration _ inductionHypothesis =>
      exact preserves_filled_perform registration _ inductionHypothesis
  | merge _ _ inductionHypothesis incomingFilled =>
      exact preserves_filled_merge incomingFilled _ inductionHypothesis
  | assignNames package _ inductionHypothesis =>
      refine inductionHypothesis.of_same_methods ?_
      refine (settles_assignNames package _).within.classes.map_eq ?_
      rintro former changed (rfl | ⟨_, given, rfl⟩)
      · rfl
      · rfl
  | markImported _ inductionHypothesis =>
      refine inductionHypothesis.of_same_methods ?_
      simp [BindingModel.markImported, Function.comp_def]
  | retainLocal _ inductionHypothesis => exact inductionHypothesis.retainLocal
  | reindex _ inductionHypothesis => exact inductionHypothesis
  | readBack reachable isText parsed decoded inductionHypothesis =>
      rw [Interchange.eq_asRead_of_decoded isText parsed decoded]
      exact inductionHypothesis.asRead reachable.sound
  | load reachable isLoaded inductionHypothesis =>
      rw [(Artifact.ofText?_text isLoaded).2.1]
      exact inductionHypothesis.asRead reachable.sound

end BindingModel

end BindingStubs
