import BindingStubs.Proofs.Model.Change

namespace BindingStubs.Change

/-!
# Changes that may be repeated

Some changes only fill in what is missing.  Such a change settles a state: what it leaves
behind, also when it is refused, is the state with more filled in, and done again at any later
time it comes to the same outcome and changes nothing.  Settling is composed from the parts of
a change, and carries along what the change ensures when it is not refused.
-/

variable {State Result : Type}

/-- The outcome of a change with another state in place of the one it leaves behind. -/
def outcomeIn
    (later : State) :
    EStateM.Result Fault State Result → EStateM.Result Fault State Result
  | .ok value _ => .ok value later
  | .error fault _ => .error fault later

theorem outcomeIn_left
    (change : Change State Result)
    (state : State) :
    outcomeIn (left change state) (change state) = change state := by
  cases outcome : change state <;> simp [left, outcomeIn, outcome]

/-- Filling in composes.  `Within` is filling in what a change may fill in, `Fills` is filling
in anything at all. -/
structure Filling
    (Within Fills : State → State → Prop) : Prop where
  refl : ∀ state, Within state state
  trans : ∀ {first second third}, Within first second → Within second third → Within first third
  fills_of_within : ∀ {first second}, Within first second → Fills first second
  fills_trans : ∀ {first second third}, Fills first second → Fills second third → Fills first third

/--
A change settles a state when it only fills in what it may, comes to the same outcome in every
state that is filled in further, and ensures a property of its result that later filling keeps.
-/
structure Settles
    (Within Fills : State → State → Prop)
    (change : Change State Result)
    (Ensures : Result → State → Prop)
    (state : State) : Prop where
  within : Within state (left change state)
  repeats :
    ∀ {later}, Fills (left change state) later → change later = outcomeIn later (change state)
  ensures :
    ∀ {value after later},
      change state = .ok value after → Fills after later → Ensures value later

namespace Settles

variable
  {Within Fills : State → State → Prop}
  (filling : Filling Within Fills)

include filling in
theorem throw
    (fault : Fault)
    (Ensures : Result → State → Prop)
    (state : State) :
    Settles Within Fills (throw fault) Ensures state where
  within := filling.refl state
  repeats _ := rfl
  ensures success := nomatch success

include filling in
/-- A change that is refused in the same way whatever is filled in settles a state. -/
theorem of_refused
    {change : Change State Result}
    {Ensures : Result → State → Prop}
    {state : State}
    (fault : Fault)
    (refused : ∀ {later}, Fills state later → change later = .error fault later) :
    Settles Within Fills change Ensures state := by
  have refusedNow := refused (filling.fills_of_within (filling.refl state))
  refine ⟨?_, fun {later} filled => ?_, fun success => ?_⟩
  · rw [left_of_error refusedNow]
    exact filling.refl state
  · rw [left_of_error refusedNow] at filled
    rw [refused filled, refusedNow, outcomeIn]
  · rw [refusedNow] at success
    cases success

include filling in
theorem pure
    {value : Result}
    {Ensures : Result → State → Prop}
    {state : State}
    (holds : ∀ {later}, Fills state later → Ensures value later) :
    Settles Within Fills (pure value) Ensures state where
  within := filling.refl state
  repeats _ := rfl
  ensures success filled := by
    cases success
    exact holds filled

theorem imp
    {change : Change State Result}
    {Ensures Ensures' : Result → State → Prop}
    {state : State}
    (settles : Settles Within Fills change Ensures state)
    (implies : ∀ {value later}, Ensures value later → Ensures' value later) :
    Settles Within Fills change Ensures' state where
  within := settles.within
  repeats := settles.repeats
  ensures success filled := implies (settles.ensures success filled)

theorem within_of_ok
    {change : Change State Result}
    {Ensures : Result → State → Prop}
    {state after : State}
    {value : Result}
    (settles : Settles Within Fills change Ensures state)
    (success : change state = .ok value after) :
    Within state after :=
  left_of_ok success ▸ settles.within

include filling in
/-- Whatever a change ensures holds in states that come later than the one it started from. -/
theorem since
    {change : Change State Result}
    {Ensures : Result → State → Prop}
    {state : State}
    (settles : Settles Within Fills change Ensures state) :
    Settles Within Fills change (fun value later => Fills state later ∧ Ensures value later)
      state where
  within := settles.within
  repeats := settles.repeats
  ensures success filled :=
    ⟨filling.fills_trans (filling.fills_of_within (settles.within_of_ok success)) filled,
      settles.ensures success filled⟩

include filling in
/-- What is read from a state and does not depend on what is filled in stays the same. -/
theorem read
    {view : State → Result}
    {state : State}
    (same : ∀ {later}, Fills state later → view later = view state) :
    Settles Within Fills (get >>= fun read => Pure.pure (view read))
      (fun value later => value = view later) state where
  within := filling.refl state
  repeats filled := congrArg (EStateM.Result.ok · _) (same filled)
  ensures success filled := by
    cases success
    exact (same filled).symm

include filling in
/-- A change may be chosen by what it reads, if that is not what is filled in. -/
theorem get_bind
    {next : State → Change State Result}
    {Ensures : Result → State → Prop}
    {state : State}
    (same : ∀ {later}, Fills state later → next later = next state)
    (settles : Settles Within Fills (next state) Ensures state) :
    Settles Within Fills (get >>= next) Ensures state where
  within := settles.within
  repeats {later} filled := by
    have fromStart : Fills state later :=
      filling.fills_trans (filling.fills_of_within settles.within) filled
    have again : next later later = outcomeIn later (next state state) := by
      rw [same fromStart]
      exact settles.repeats filled
    exact again
  ensures := settles.ensures

include filling in
/-- A later part settles the state that an earlier part leads to. -/
theorem bind
    {Intermediate : Type}
    {change : Change State Intermediate}
    {next : Intermediate → Change State Result}
    {Between : Intermediate → State → Prop}
    {Ensures : Intermediate → Result → State → Prop}
    {state : State}
    (first : Settles Within Fills change Between state)
    (second :
      ∀ {value after},
        change state = .ok value after →
        Settles Within Fills (next value) (Ensures value) after) :
    Settles Within Fills (change >>= next)
      (fun result later => ∃ value, Between value later ∧ Ensures value result later)
      state := by
  have firstWithin := first.within
  have firstRepeats := @first.repeats
  cases outcome : change state with
  | ok value after =>
      have secondSettles := second outcome
      have secondFills := filling.fills_of_within secondSettles.within
      rw [left_of_ok outcome] at firstWithin firstRepeats
      refine ⟨?_, ?_, ?_⟩
      · rw [left_bind_of_ok outcome]
        exact filling.trans firstWithin secondSettles.within
      · intro later filled
        rw [left_bind_of_ok outcome] at filled
        have firstAgain : change later = .ok value later := by
          rw [firstRepeats (filling.fills_trans secondFills filled), outcome, outcomeIn]
        simp only [Bind.bind, EStateM.bind, firstAgain, outcome]
        exact secondSettles.repeats filled
      · intro result final later success filled
        simp only [Bind.bind, EStateM.bind, outcome] at success
        rw [left_of_ok success] at secondFills
        exact ⟨value, first.ensures outcome (filling.fills_trans secondFills filled),
          secondSettles.ensures success filled⟩
  | error fault after =>
      rw [left_of_error outcome] at firstWithin firstRepeats
      refine ⟨?_, ?_, ?_⟩
      · rw [left_bind_of_error outcome]
        exact firstWithin
      · intro later filled
        rw [left_bind_of_error outcome] at filled
        have firstAgain : change later = .error fault later := by
          rw [firstRepeats filled, outcome, outcomeIn]
        simp only [Bind.bind, EStateM.bind, firstAgain, outcome, outcomeIn]
      · intro result final later success
        simp [Bind.bind, EStateM.bind, outcome] at success

include filling in
/-- Actions that settle every state reached so far settle it one after the other. -/
theorem forAll
    {Element : Type}
    {action : Element → Change State Unit}
    {Ensures : Element → State → Prop}
    {elements : List Element}
    {state : State}
    (each :
      ∀ element ∈ elements,
        ∀ {reached},
          Within state reached →
          Settles Within Fills (action element) (fun _ => Ensures element) reached) :
    Settles Within Fills (BindingModel.forAll action elements)
      (fun _ later => ∀ element ∈ elements, Ensures element later) state := by
  induction elements generalizing state with
  | nil => exact pure filling fun _ => by simp
  | cons element rest inductionHypothesis =>
      have first := each element (List.mem_cons_self ..) (filling.refl state)
      have others :
          ∀ {value after},
            action element state = .ok value after →
            Settles Within Fills (BindingModel.forAll action rest)
              (fun _ later => ∀ other ∈ rest, Ensures other later) after := by
        intro value after success
        exact inductionHypothesis fun other member _ reached =>
          each other (List.mem_cons_of_mem _ member)
            (filling.trans (first.within_of_ok success) reached)
      refine (bind filling first others).imp ?_
      rintro _ later ⟨_, atElement, atRest⟩ other member
      rcases List.mem_cons.mp member with rfl | inRest
      · exact atElement
      · exact atRest other inRest

end Settles

end BindingStubs.Change
