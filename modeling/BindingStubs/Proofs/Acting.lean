import BindingStubs.World

namespace BindingStubs.Acting

/-!
# Actions step by step

What an action that is built from others does to the world, told by what its parts do.
-/

variable {Value : Type} (world : World)

/-- Asking for the world does not change it. -/
theorem get_bind
    (next : World → Acting Value) :
    (get >>= next : Acting Value) world = next world world :=
  rfl

theorem modify_bind
    (update : World → World)
    (next : PUnit → Acting Value) :
    (modify update >>= next : Acting Value) world = next ⟨⟩ (update world) :=
  rfl

theorem set_bind
    (changed : World)
    (next : PUnit → Acting Value) :
    (set changed >>= next : Acting Value) world = next ⟨⟩ changed :=
  rfl

/-- What follows an action starts where the action led to. -/
theorem bind_eq
    {Intermediate : Type}
    (action : Acting Intermediate)
    (next : Intermediate → Acting Value) :
    (action >>= next) world =
      match action world with
      | .ok value later => next value later
      | .error failure later => .error failure later := by
  simp only [bind, EStateM.bind]
  cases action world <;> rfl

/-- A note changes neither what an action does nor its value. -/
theorem noting_eq_ok_iff
    {world after : World}
    {note : String}
    {action : Acting Value}
    {value : Value} :
    noting note action world = .ok value after ↔ action world = .ok value after := by
  unfold noting
  cases action world <;> simp

/-- What an action after another leads to is led to in two steps. -/
theorem bind_eq_ok_iff
    {Intermediate : Type}
    {world after : World}
    {action : Acting Intermediate}
    {next : Intermediate → Acting Value}
    {value : Value} :
    (action >>= next) world = .ok value after ↔
      ∃ part between,
        action world = .ok part between ∧ next part between = .ok value after := by
  rw [bind_eq]
  cases action world with
  | error failure later => simp
  | ok part later => simp [and_assoc]

end BindingStubs.Acting
