import BindingStubs.Proofs.Model.Aggregation

namespace BindingStubs.Registration

open BindingModel

/-!
# Splitting registrations over fragments

Registrations may be performed on one model, or split into two stretches that build a model
each, of which the second is then merged into the first.  Both ways succeed for the same
registrations and lead to the same model.
-/

/-- Registrations in a row add their contents one after the other. -/
theorem exists_contributions
    (registrations : List Registration) :
    ∃ parts : List Contents,
      (∀ part ∈ parts, contents.Valid part ∧ IsLocal part) ∧
        ∀ {whole},
          contents.Valid whole →
          Change.after? (performAll registrations) (ofContents whole) =
            (contents.gather? whole parts).map ofContents := by
  induction registrations with
  | nil => exact ⟨[], by simp, fun _ => rfl⟩
  | cons registration rest inductionHypothesis =>
      obtain ⟨part, contributes, isLocal⟩ := registration.exists_contribution
      obtain ⟨parts, partsValid, gathered⟩ := inductionHypothesis
      refine ⟨part :: parts, ?_, ?_⟩
      · intro other member
        rcases List.mem_cons.mp member with rfl | inParts
        · exact ⟨contributes.valid, isLocal⟩
        · exact partsValid other inParts
      · intro whole wholeValid
        rw [performAll, Change.after?_bind, contributes.after? wholeValid, Option.bind_map,
          Combining.gather?, Option.map_bind]
        refine Option.bind_congr fun extended combined => ?_
        exact gathered (lawful_contents.closed wholeValid contributes.valid combined)

/-- A model that registrations build from the empty one is known by its contents. -/
theorem exists_contents_of_performAll
    {registrations : List Registration}
    {model : BindingModel}
    (built : performAll registrations BindingModel.empty = .ok () model) :
    ∃ whole, contents.Valid whole ∧ model = ofContents whole := by
  obtain ⟨parts, partsValid, gathered⟩ := exists_contributions registrations
  have fromEmpty := gathered neutral_nothing.valid
  rw [ofContents_nothing, Change.after?_eq_some_iff.mpr built] at fromEmpty
  obtain ⟨whole, success, rfl⟩ := Option.map_eq_some_iff.mp fromEmpty.symm
  have valid := lawful_contents.gather?_valid neutral_nothing.valid
    (fun part member => (partsValid part member).1) success
  exact ⟨whole, valid, rfl⟩

/-- Performing registrations is building a model of their own and merging it. -/
theorem after?_performAll_eq_merge
    (registrations : List Registration)
    {whole : Contents}
    (wholeValid : contents.Valid whole) :
    Change.after? (performAll registrations) (ofContents whole) =
      (Change.after? (performAll registrations) BindingModel.empty).bind fun fragment =>
        Change.after? (merge fragment) (ofContents whole) := by
  obtain ⟨parts, partsSound, gathered⟩ := exists_contributions registrations
  have partsValid : ∀ part ∈ parts, contents.Valid part :=
    fun part member => (partsSound part member).1
  rw [← ofContents_nothing, gathered wholeValid, gathered neutral_nothing.valid,
    lawful_contents.gather?_eq_combine? neutral_nothing wholeValid partsValid,
    Option.map_bind, Option.bind_map]
  refine Option.bind_congr fun part success => ?_
  have partValid := lawful_contents.gather?_valid neutral_nothing.valid partsValid success
  exact (after?_merge wholeValid partValid).symm

theorem after?_performAll_append
    (first second : List Registration)
    (model : BindingModel) :
    Change.after? (performAll (first ++ second)) model =
      (Change.after? (performAll first) model).bind fun reached =>
        Change.after? (performAll second) reached := by
  induction first generalizing model with
  | nil => rfl
  | cons registration rest inductionHypothesis =>
      rw [List.cons_append, performAll, performAll, Change.after?_bind, Change.after?_bind,
        Option.bind_assoc]
      exact Option.bind_congr fun reached _ => inductionHypothesis reached

/--
Performing two stretches of registrations on the empty model leads to a model exactly when
each stretch builds a model from the empty one and merging the second into the first leads to
that same model.
-/
theorem performAll_append_iff_merge
    (first second : List Registration)
    (model : BindingModel) :
    performAll (first ++ second) BindingModel.empty = .ok () model ↔
      ∃ firstModel secondModel,
        performAll first BindingModel.empty = .ok () firstModel ∧
          performAll second BindingModel.empty = .ok () secondModel ∧
          BindingModel.merge secondModel firstModel = .ok () model := by
  simp only [← Change.after?_eq_some_iff]
  rw [after?_performAll_append, Option.bind_eq_some_iff]
  refine exists_congr fun firstModel => ?_
  rw [exists_and_left]
  refine and_congr_right fun builtFirst => ?_
  obtain ⟨whole, wholeValid, rfl⟩ :=
    exists_contents_of_performAll (Change.after?_eq_some_iff.mp builtFirst)
  rw [after?_performAll_eq_merge second wholeValid, Option.bind_eq_some_iff]

end BindingStubs.Registration
