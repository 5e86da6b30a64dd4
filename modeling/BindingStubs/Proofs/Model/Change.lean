import BindingStubs.Model.Merge

namespace BindingStubs.Change

/-!
# The states that changes lead to

A change that is not refused leads from one state to another.  Each way of building a
change has one lemma that says which state it leads to, so that the proofs about
registrations never open the state monad.

A refused change leaves a state too, since it may have done a part of its work.  What holds of
every state that is left behind is proved in the same way, one lemma for each way of building
a change.
-/

variable {State Result : Type}

/-- The state that a change leads to, unless it is refused. -/
def after?
    (change : Change State Result)
    (state : State) :
    Option State :=
  match change state with
  | .ok _ changed => some changed
  | .error _ _ => none

/-- A change without a result leads to a state when it ends well in that state. -/
theorem after?_eq_some_iff
    {change : Change State Unit}
    {state changed : State} :
    after? change state = some changed ↔ change state = .ok () changed := by
  cases outcome : change state with
  | ok value reached => simp [after?, outcome]
  | error fault reached => simp [after?, outcome]

@[simp] theorem after?_pure
    (value : Result)
    (state : State) :
    after? (pure value : Change State Result) state = some state :=
  rfl

@[simp] theorem after?_throw
    (fault : Fault)
    (state : State) :
    after? (throw fault : Change State Result) state = none :=
  rfl

@[simp] theorem after?_modify
    (update : State → State)
    (state : State) :
    after? (modify update : Change State PUnit) state = some (update state) :=
  rfl

@[simp] theorem after?_discard
    (change : Change State Result)
    (state : State) :
    after? (discard change) state = after? change state := by
  cases outcome : change state <;>
    simp [after?, discard, Functor.discard, Functor.mapConst, EStateM.map, outcome]

/-- A later change starts where an earlier one without a result led to. -/
@[simp] theorem after?_bind
    (change : Change State PUnit)
    (next : PUnit → Change State Result)
    (state : State) :
    after? (change >>= next) state =
      (after? change state).bind fun reached => after? (next ()) reached := by
  cases outcome : change state <;> simp [after?, bind, EStateM.bind, outcome]

theorem after?_bind_of_ok
    {Intermediate : Type}
    {change : Change State Intermediate}
    {next : Intermediate → Change State Result}
    {state reached : State}
    {value : Intermediate}
    (success : change state = .ok value reached) :
    after? (change >>= next) state = after? (next value) reached := by
  simp [after?, bind, EStateM.bind, success]

/-- Nothing follows a change that is refused. -/
theorem after?_bind_of_eq_none
    {Intermediate : Type}
    {change : Change State Intermediate}
    {next : Intermediate → Change State Result}
    {state : State}
    (refused : after? change state = none) :
    after? (change >>= next) state = none := by
  cases outcome : change state with
  | ok value reached => simp [after?, outcome] at refused
  | error fault reached => simp [after?, bind, EStateM.bind, outcome]

theorem after?_of_ok
    {change : Change State Result}
    {state reached : State}
    {value : Result}
    (success : change state = .ok value reached) :
    after? change state = some reached := by
  simp [after?, success]

/-- Asking for the state does not change it. -/
theorem get_bind
    (next : State → Change State Result)
    (state : State) :
    (get >>= next : Change State Result) state = next state state :=
  rfl

@[simp] theorem after?_get_bind
    (next : State → Change State Result)
    (state : State) :
    after? (get >>= next) state = after? (next state) state :=
  rfl

@[simp] theorem after?_onPart
    {Part : Type}
    (part : State → Part)
    (update : State → Part → State)
    (change : Change Part Result)
    (state : State) :
    after? (onPart part update change) state =
      (after? change (part state)).map (update state) := by
  cases outcome : change (part state) <;> simp [after?, onPart, outcome]

@[simp] theorem after?_forAll_cons
    {Element : Type}
    (action : Element → Change State Unit)
    (element : Element)
    (rest : List Element)
    (state : State) :
    after? (BindingModel.forAll action (element :: rest)) state =
      (after? (action element) state).bind fun reached =>
        after? (BindingModel.forAll action rest) reached := by
  rw [BindingModel.forAll, after?_bind]

theorem after?_forAll_append
    {Element : Type}
    (action : Element → Change State Unit)
    (first second : List Element)
    (state : State) :
    after? (BindingModel.forAll action (first ++ second)) state =
      (after? (BindingModel.forAll action first) state).bind fun reached =>
        after? (BindingModel.forAll action second) reached := by
  induction first generalizing state with
  | nil => rfl
  | cons element rest inductionHypothesis =>
      rw [List.cons_append, after?_forAll_cons, after?_forAll_cons, Option.bind_assoc]
      simp only [inductionHypothesis]

@[simp] theorem after?_requireUndeclared
    (kind key : String)
    (declaredAt : Option Location)
    (location : Location)
    (state : State) :
    after? (BindingModel.requireUndeclared kind key declaredAt location) state =
      if declaredAt.isSome then none else some state := by
  cases declaredAt <;> rfl

/-! ## The states that changes leave behind -/

/-- The state that a change leaves behind, also when it is refused. -/
def left
    (change : Change State Result)
    (state : State) :
    State :=
  match change state with
  | .ok _ changed => changed
  | .error _ changed => changed

theorem left_of_ok
    {change : Change State Result}
    {state reached : State}
    {value : Result}
    (success : change state = .ok value reached) :
    left change state = reached := by
  simp [left, success]

theorem left_of_error
    {change : Change State Result}
    {state reached : State}
    {fault : Fault}
    (refusal : change state = .error fault reached) :
    left change state = reached := by
  simp [left, refusal]

theorem left_of_after?
    {change : Change State Result}
    {state reached : State}
    (success : after? change state = some reached) :
    left change state = reached := by
  cases outcome : change state <;> simp_all [left, after?]

theorem left_bind_of_ok
    {Intermediate : Type}
    {change : Change State Intermediate}
    {next : Intermediate → Change State Result}
    {state reached : State}
    {value : Intermediate}
    (success : change state = .ok value reached) :
    left (change >>= next) state = left (next value) reached := by
  simp [left, bind, EStateM.bind, success]

theorem left_bind_of_error
    {Intermediate : Type}
    {change : Change State Intermediate}
    {next : Intermediate → Change State Result}
    {state reached : State}
    {fault : Fault}
    (refusal : change state = .error fault reached) :
    left (change >>= next) state = reached := by
  simp [left, bind, EStateM.bind, refusal]

/-- A property that a change keeps, whether it is refused or not. -/
def Preserves
    (Holds : State → Prop)
    (change : Change State Result) :
    Prop :=
  ∀ state, Holds state → Holds (left change state)

section Preserves

variable {Holds : State → Prop}

theorem preserves_pure
    (value : Result) :
    Preserves Holds (pure value : Change State Result) :=
  fun _ holds => holds

theorem preserves_throw
    (fault : Fault) :
    Preserves Holds (throw fault : Change State Result) :=
  fun _ holds => holds

theorem preserves_modify
    {update : State → State}
    (keeps : ∀ state, Holds state → Holds (update state)) :
    Preserves Holds (modify update : Change State PUnit) :=
  keeps

theorem Preserves.bind
    {Intermediate : Type}
    {change : Change State Intermediate}
    {next : Intermediate → Change State Result}
    (first : Preserves Holds change)
    (second : ∀ value, Preserves Holds (next value)) :
    Preserves Holds (change >>= next) := by
  intro state holds
  have between := first state holds
  cases outcome : change state with
  | ok value reached =>
      rw [left_of_ok outcome] at between
      rw [left_bind_of_ok outcome]
      exact second value reached between
  | error fault reached =>
      rw [left_of_error outcome] at between
      rw [left_bind_of_error outcome]
      exact between

theorem preserves_modify_bind
    {update : State → State}
    {next : PUnit → Change State Result}
    (keeps : ∀ state, Holds state → Holds (update state))
    (second : ∀ value, Preserves Holds (next value)) :
    Preserves Holds (modify update >>= next) :=
  (preserves_modify keeps).bind second

theorem preserves_get_bind
    {next : State → Change State Result}
    (second : ∀ read, Preserves Holds (next read)) :
    Preserves Holds (get >>= next) :=
  fun state => second state state

theorem Preserves.discard
    {change : Change State Result}
    (preserves : Preserves Holds change) :
    Preserves Holds (discard change) := by
  intro state holds
  have kept := preserves state holds
  cases outcome : change state <;>
    simpa [left, Functor.discard, Functor.mapConst, EStateM.map, outcome] using kept

theorem preserves_forAll
    {Element : Type}
    {action : Element → Change State Unit}
    {elements : List Element}
    (each : ∀ element ∈ elements, Preserves Holds (action element)) :
    Preserves Holds (BindingModel.forAll action elements) := by
  induction elements with
  | nil => exact preserves_pure ()
  | cons element rest inductionHypothesis =>
      refine (each element (List.mem_cons_self ..)).bind fun _ => ?_
      exact inductionHypothesis fun other member => each other (List.mem_cons_of_mem _ member)

theorem preserves_onPart
    {Part : Type}
    {part : State → Part}
    {update : State → Part → State}
    (change : Change Part Result)
    (keeps : ∀ state changed, Holds state → Holds (update state changed)) :
    Preserves Holds (onPart part update change) := by
  intro state holds
  cases outcome : change (part state) <;>
    simpa [left, onPart, outcome] using keeps state _ holds

/-- What holds of a state because of one of its parts is kept by changes that keep it of the
part. -/
theorem Preserves.onPart
    {Part : Type}
    {HoldsOfPart : Part → Prop}
    {part : State → Part}
    {update : State → Part → State}
    {change : Change Part Result}
    (preserves : Preserves HoldsOfPart change)
    (reads : ∀ state, Holds state → HoldsOfPart (part state))
    (keeps : ∀ state changed, Holds state → HoldsOfPart changed → Holds (update state changed)) :
    Preserves Holds (onPart part update change) := by
  intro state holds
  have kept := preserves (part state) (reads state holds)
  cases outcome : change (part state) <;>
    simpa [left, BindingStubs.onPart, outcome] using
      keeps state _ holds (by simpa [left, outcome] using kept)

theorem preserves_requireUndeclared
    (kind key : String)
    (declaredAt : Option Location)
    (location : Location) :
    Preserves Holds
      (BindingModel.requireUndeclared kind key declaredAt location : Change State Unit) := by
  cases declaredAt with
  | none => exact preserves_pure ()
  | some first => exact preserves_throw _

end Preserves

end BindingStubs.Change
