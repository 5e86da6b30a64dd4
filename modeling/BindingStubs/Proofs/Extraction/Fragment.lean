import BindingStubs.Extraction.Fragment
import BindingStubs.Proofs.Extraction.Walk
import BindingStubs.Proofs.Model.Lookup
import BindingStubs.Proofs.Model.Rereading
import BindingStubs.Proofs.Model.Splitting

namespace BindingStubs

/-!
# Fragments are read back unchanged

The fragment that extraction yields has distinct keys wherever it has keys: its members are
registered one by one, and the values of an enum are listed without repetition.  So nothing is
lost when the fragment is written and read.
-/

namespace BindingModel

open Change

theorem preserves_distinctValues_enumEntry
    (cppName : String) :
    Preserves DistinctValues (enumEntry cppName) :=
  preserves_enumEntry_of_new cppName fun distinct _ =>
    List.forall_mem_append.mpr ⟨distinct, List.forall_mem_singleton.mpr List.nodup_nil⟩

theorem preserves_distinctValues_onEnum
    (position : Nat)
    {change : Change Enumeration Unit}
    (keeps : Preserves (fun entity => entity.values.keys.Nodup) change) :
    Preserves DistinctValues (onEnum position change) := by
  refine preserves_onEnum position fun distinct found changed member => ?_
  rcases List.mem_or_eq_of_mem_set member with former | rfl
  · exact distinct changed former
  · exact keeps _ (distinct _ (List.mem_of_getElem? found))

end BindingModel

namespace Registration

open BindingModel Change

/-- A registration that declares no enum value twice. -/
def IsOrderly : Registration → Prop
  | .declareEnum _ _ _ values _ => values.keys.Nodup
  | _ => True

theorem preserves_distinctValues_perform
    {registration : Registration}
    (orderly : registration.IsOrderly) :
    Preserves DistinctValues registration.perform := by
  refine registration.preserves_perform
    (preserves_moduleEntry fun _ _ _ distinct => distinct)
    (preserves_classEntry fun _ _ _ _ distinct => distinct)
    preserves_distinctValues_enumEntry ?_ ?_ ?_ ?_
  · exact fun cppName change _ =>
      preserves_inModule (fun _ _ _ distinct => distinct) cppName change
  · exact fun shadowKey cppType location change _ =>
      preserves_inClass (fun _ _ _ _ distinct => distinct) shadowKey cppType location change
  · rintro cppName pythonName doc values location rfl
    refine (preserves_distinctValues_enumEntry cppName).bind fun position => ?_
    exact preserves_distinctValues_onEnum position
      (preserves_declare _ _ _ _ fun _ _ => orderly)
  · intro rule _ model distinct
    obtain ⟨rules, reached⟩ := left_addRule rule model
    rw [reached]
    exact distinct

theorem preserves_distinctValues_performAll
    {registrations : List Registration}
    (orderly : ∀ registration ∈ registrations, registration.IsOrderly) :
    Preserves DistinctValues (performAll registrations) := by
  induction registrations with
  | nil => exact preserves_pure ()
  | cons registration rest inductionHypothesis =>
      refine Preserves.bind
        (preserves_distinctValues_perform (orderly registration (List.mem_cons_self ..)))
        fun _ => ?_
      exact inductionHypothesis fun other member => orderly other (List.mem_cons_of_mem _ member)

end Registration

/-! ## Registrations that calls make -/

namespace RegistrationCall

open Shape

/-- Whatever registrations a reading yields are orderly. -/
def YieldsOrderly
    (reading : Except Fault (List Registration)) :
    Prop :=
  ∀ registrations,
    reading = .ok registrations →
    ∀ registration ∈ registrations, registration.IsOrderly

theorem yieldsOrderly_bind
    {Part : Type}
    {part : Except Fault Part}
    {next : Part → Except Fault (List Registration)}
    (rest : ∀ value, part = .ok value → YieldsOrderly (next value)) :
    YieldsOrderly (part >>= next) := by
  intro registrations success
  cases part with
  | error fault => cases success
  | ok value => exact rest value rfl registrations success

theorem yieldsOrderly_ok
    {registrations : List Registration}
    (orderly : ∀ registration ∈ registrations, registration.IsOrderly) :
    YieldsOrderly (.ok registrations) := by
  rintro _ ⟨⟩
  exact orderly

theorem yieldsOrderly_error
    (fault : Fault) :
    YieldsOrderly (.error fault) :=
  fun _ success => nomatch success

/-- The values that are listed for an enum have distinct names. -/
theorem nodup_explicitValuesFrom
    {unit : TranslationUnit}
    {idiom : String}
    {values result : Keyed (Option Literal)}
    {entries : List NodeId}
    (distinct : values.keys.Nodup)
    (success : explicitValuesFrom unit idiom values entries = .ok result) :
    result.keys.Nodup := by
  induction entries generalizing values with
  | nil =>
      cases success
      exact distinct
  | cons entry rest inductionHypothesis =>
      simp only [explicitValuesFrom] at success
      split at success
      · rename_i nameNode valueNode _ _
        cases named : stringLiteral unit idiom nameNode with
        | error fault => simp [named, bind, Except.bind] at success
        | ok name =>
            simp only [named, bind, Except.bind] at success
            split at success
            · cases success
            · cases valued : literal? unit valueNode with
              | error fault => simp [valued] at success
              | ok value =>
                  simp only [valued] at success
                  exact inductionHypothesis (Keyed.nodup_keys_insert distinct name value) success
      · cases success

theorem nodup_explicitValues
    {unit : TranslationUnit}
    {idiom : String}
    {argument : NodeId}
    {values : Keyed (Option Literal)}
    (success : explicitValues unit idiom argument = .ok values) :
    values.keys.Nodup := by
  simp only [explicitValues] at success
  split at success
  · have noKeys : (⟨[]⟩ : Keyed (Option Literal)).keys.Nodup := List.nodup_nil
    exact nodup_explicitValuesFrom noKeys success
  · cases success

theorem nodup_declaredValues
    (unit : TranslationUnit)
    (cppName : String) :
    (declaredValues unit cppName).keys.Nodup := by
  rw [declaredValues]
  split
  · exact List.nodup_nil
  · exact Keyed.nodup_keys_ofList _

theorem yieldsOrderly_declareEnum
    (unit : TranslationUnit)
    (call : NodeId) :
    YieldsOrderly (declareEnum unit call) := by
  refine yieldsOrderly_bind fun found _ => ?_
  refine yieldsOrderly_bind fun cppName _ => ?_
  refine yieldsOrderly_bind fun name _ => ?_
  refine yieldsOrderly_bind fun doc _ => ?_
  have orderly :
      ∀ values : Keyed (Option Literal),
        values.keys.Nodup →
        YieldsOrderly (.ok [.declareEnum cppName name doc values (unit.location call)]) := by
    intro values distinct
    refine yieldsOrderly_ok fun registration member => ?_
    rw [List.mem_singleton.mp member]
    exact distinct
  cases found[2]? with
  | some list =>
      exact yieldsOrderly_bind fun values isValues => orderly values (nodup_explicitValues isValues)
  | none => exact orderly _ (nodup_declaredValues unit cppName)

/-- A call declares no enum value twice. -/
theorem yieldsOrderly_registrations
    (unit : TranslationUnit)
    (idiom : Idiom)
    (call : NodeId) :
    YieldsOrderly (registrations unit idiom call) := by
  cases idiom with
  | declareEnum => exact yieldsOrderly_declareEnum unit call
  | _ =>
      simp only [registrations, declareModule, declareClass, addFunction, addClass, addEnum,
        addConstructor, addMethod, addProperty, addStaticConstant, addInnerClass, addInnerEnum,
        addImplicitConverter]
      repeat' first
        | refine yieldsOrderly_bind fun _ _ => ?_
        | exact yieldsOrderly_error _
        | exact yieldsOrderly_ok (by simp [Registration.IsOrderly])
        | split

end RegistrationCall

namespace Extraction

open BindingModel Change RegistrationCall

theorem yieldsOrderly_registrationsAt
    (unit : TranslationUnit)
    (visit : Visit) :
    YieldsOrderly (registrationsAt unit visit) := by
  have exporter :
      YieldsOrderly
        ((Exporter.rule unit visit.node).map fun rule => [Registration.addRule rule]) := by
    cases Exporter.rule unit visit.node with
    | error fault => exact yieldsOrderly_error fault
    | ok rule => exact yieldsOrderly_ok (by simp [Registration.IsOrderly])
  rw [registrationsAt]
  repeat' first
    | exact exporter
    | exact yieldsOrderly_registrations unit _ _
    | exact yieldsOrderly_ok (by simp)
    | split

/-- Registering visits is performing the registrations that they find. -/
theorem exists_registrations_of_forAll_inspect
    {unit : TranslationUnit}
    {visits : List Visit}
    {model reached : BindingModel}
    (success : forAll (inspect unit) visits model = .ok () reached) :
    ∃ registrations,
      (∀ registration ∈ registrations, registration.IsOrderly) ∧
        Registration.performAll registrations model = .ok () reached := by
  rw [← after?_eq_some_iff] at success
  induction visits generalizing model with
  | nil => exact ⟨[], by simp, after?_eq_some_iff.mp success⟩
  | cons visit rest inductionHypothesis =>
      rw [after?_forAll_cons, inspect] at success
      obtain ⟨between, performed, success⟩ := Option.bind_eq_some_iff.mp success
      cases found : registrationsAt unit visit with
      | error fault =>
          rw [found] at performed
          cases performed
      | ok registrations =>
          simp only [found] at performed
          obtain ⟨others, othersOrderly, othersPerformed⟩ := inductionHypothesis success
          refine ⟨registrations ++ others, ?_, ?_⟩
          · intro registration member
            rcases List.mem_append.mp member with first | other
            · exact yieldsOrderly_registrationsAt unit visit registrations found _ first
            · exact othersOrderly registration other
          · rw [← after?_eq_some_iff, Registration.after?_performAll_append, performed,
              Option.bind_some]
            exact after?_eq_some_iff.mpr othersPerformed

/-- What a translation unit declares is read back unchanged from its written form. -/
theorem asRead_of_extract
    {unit : TranslationUnit}
    {model : BindingModel}
    (success : extract unit = .ok model) :
    model.asRead.reindex = model := by
  simp only [extract] at success
  split at success
  · rename_i reached performed
    cases success
    obtain ⟨visits, inspected⟩ := Traversal.exists_visits_of_walk unit
    rw [inspected] at performed
    obtain ⟨registrations, orderly, performed⟩ :=
      exists_registrations_of_forAll_inspect performed
    obtain ⟨whole, valid, rfl⟩ := Registration.exists_contents_of_performAll performed
    have distinct :=
      Registration.preserves_distinctValues_performAll orderly empty (by simp [DistinctValues, empty])
    rw [left_of_ok performed] at distinct
    exact asRead_ofContents valid distinct
  · cases success

end Extraction

end BindingStubs
