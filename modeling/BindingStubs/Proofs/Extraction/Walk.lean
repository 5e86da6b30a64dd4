import BindingStubs.Extraction.Traversal
import BindingStubs.Model.Registration
import BindingStubs.Proofs.Tree.Descent

namespace BindingStubs.Traversal

/-!
# The walk is the recursive one

The stack of the walk holds what is left of the tree.  Working off one part of it hands the visits
of that part on and leaves the rest of the stack as it was, so a node on top of the stack is worked
off as recursion would do it.  The children of a node cover different nodes, so the steps that this
takes are bounded by the number of nodes.
-/

open BindingModel TranslationUnit

/-! ## Walks hand on visits -/

/-- Any walk inspects some visits in order, up to the first fault. -/
theorem exists_visits_of_walkWithin
    (unit : TranslationUnit)
    (steps : Nat)
    (stack : List Pending) :
    ∃ visits,
      ∀ {State : Type} (inspect : Visit → Change State Unit),
        walkWithin unit inspect steps stack = forAll inspect visits := by
  induction steps generalizing stack with
  | zero => exact ⟨[], fun _ => rfl⟩
  | succ steps inductionHypothesis =>
      match stack with
      | [] => exact ⟨[], fun _ => rfl⟩
      | .visit visit :: rest =>
          obtain ⟨visits, same⟩ := inductionHypothesis rest
          refine ⟨visit :: visits, fun inspect => ?_⟩
          rw [walkWithin, same, forAll]
      | .enter id inLayer :: rest =>
          simp only [walkWithin]
          split
          · exact inductionHypothesis rest
          · exact inductionHypothesis _

theorem exists_visits_of_walk
    (unit : TranslationUnit) :
    ∃ visits,
      ∀ {State : Type} (inspect : Visit → Change State Unit),
        walk unit inspect = forAll inspect visits :=
  exists_visits_of_walkWithin unit _ _

/-- Whether the top of the stack is worked off in so many steps, which inspect these visits, before
anything below it. -/
def Discharges
    (unit : TranslationUnit)
    (stack : List Pending)
    (steps : Nat)
    (visits : List Visit) :
    Prop :=
  ∀ {State : Type} (inspect : Visit → Change State Unit) (rest : List Pending) (more : Nat),
    walkWithin unit inspect (steps + more) (stack ++ rest) =
      (forAll inspect visits >>= fun _ => walkWithin unit inspect more rest)

section Discharging

variable {unit : TranslationUnit} {id : NodeId} {inLayer : Bool}

theorem discharges_nil : Discharges unit [] 0 [] := by
  intro State inspect rest more
  rw [List.nil_append, Nat.zero_add, forAll, pure_bind]

theorem forAll_append
    {Element State : Type}
    (action : Element → Change State Unit)
    (first second : List Element) :
    forAll action (first ++ second) =
      (forAll action first >>= fun _ => forAll action second) := by
  induction first with
  | nil => rw [List.nil_append, forAll, pure_bind]
  | cons element rest inductionHypothesis =>
      rw [List.cons_append, forAll, forAll, inductionHypothesis, bind_assoc]

theorem Discharges.append
    {upper lower : List Pending}
    {upperSteps lowerSteps : Nat}
    {first second : List Visit}
    (top : Discharges unit upper upperSteps first)
    (below : Discharges unit lower lowerSteps second) :
    Discharges unit (upper ++ lower) (upperSteps + lowerSteps) (first ++ second) := by
  intro State inspect rest more
  rw [List.append_assoc, Nat.add_assoc, top inspect, below inspect, forAll_append, bind_assoc]

theorem discharges_visit
    (visit : Visit) :
    Discharges unit [.visit visit] 1 [visit] := by
  intro State inspect rest more
  rw [List.singleton_append, Nat.add_comm, walkWithin, forAll, forAll, bind_assoc]
  simp only [pure_bind]

theorem discharges_template
    (template : isTemplate unit id) :
    Discharges unit [.enter id inLayer] 1 [] := by
  intro State inspect rest more
  rw [List.singleton_append, Nat.add_comm, walkWithin, if_pos template, forAll, pure_bind]

/-- A node that is entered is replaced by its children with its visit below them. -/
theorem discharges_enter
    {steps : Nat}
    {visits : List Visit}
    (noTemplate : isTemplate unit id = false)
    (children :
      Discharges unit
        ((unit.children id).map (Pending.enter · (inLayer || isEmbeddingNamespace unit id)))
        steps visits) :
    Discharges unit [.enter id inLayer] (steps + 2)
      (visits ++ [{ node := id, inLayer := inLayer || isEmbeddingNamespace unit id }]) := by
  intro State inspect rest more
  have replaced :=
    children.append
      (discharges_visit { node := id, inLayer := inLayer || isEmbeddingNamespace unit id })
      inspect rest more
  rw [List.singleton_append, show steps + 2 + more = steps + 1 + more + 1 by omega, walkWithin,
    noTemplate, if_neg Bool.false_ne_true, ← replaced, List.append_assoc, List.singleton_append]

end Discharging

/-! ## The recursive walk -/

/-- The visits of a node and of what is at most so many levels below it, from a parent that lies
inside or outside the embedding layer. -/
def visitsBelow
    (unit : TranslationUnit) :
    (levels : Nat) → NodeId → (inLayer : Bool) → List Visit
  | 0, _, _ => []
  | levels + 1, id, inLayer =>
      if isTemplate unit id then []
      else
        let inside := inLayer || isEmbeddingNamespace unit id
        (unit.children id).flatMap (fun child => visitsBelow unit levels child inside)
          ++ [{ node := id, inLayer := inside }]

/-- The visits of a unit in order.  Children follow their parents in the array, so the size of the
array bounds the levels. -/
def visits
    (unit : TranslationUnit) :
    List Visit :=
  visitsBelow unit unit.nodes.size root false

section Recursion

variable {unit : TranslationUnit}

/-- The nodes that a node covers bound the steps that it takes to work it off. -/
theorem discharges_visitsBelow
    (built : unit.IsBuilt)
    {levels id : Nat}
    (inside : id < unit.nodes.size)
    (enough : unit.nodes.size ≤ levels + id)
    (inLayer : Bool) :
    ∃ steps ≤ 2 * (unit.covered id).card,
      Discharges unit [.enter id inLayer] steps (visitsBelow unit levels id inLayer) := by
  have orderly := built.isOrderly
  induction id using orderly.induction_on_children generalizing levels inLayer with
  | step id inductionHypothesis =>
      obtain _ | levels := levels
      · omega
      have fewer := sum_card_covered_lt built inside
      rw [visitsBelow]
      split
      · exact ⟨1, by omega, discharges_template ‹_›⟩
      · rename_i noTemplate
        rw [Bool.not_eq_true] at noTemplate
        have children (nodes : List NodeId) (below : ∀ child ∈ nodes, child ∈ unit.children id) :
            ∃ steps ≤ 2 * (nodes.map fun child => (unit.covered child).card).sum,
              Discharges unit
                (nodes.map (Pending.enter · (inLayer || isEmbeddingNamespace unit id))) steps
                (nodes.flatMap fun child =>
                  visitsBelow unit levels child (inLayer || isEmbeddingNamespace unit id)) := by
          induction nodes with
          | nil => exact ⟨0, Nat.zero_le _, discharges_nil⟩
          | cons child rest restHypothesis =>
              have member := below child List.mem_cons_self
              have after := orderly.lt_child member
              have enoughLevels : unit.nodes.size ≤ levels + child := by omega
              obtain ⟨first, firstBound, discharges⟩ :=
                inductionHypothesis child member (orderly.child_lt member) enoughLevels
                  (inLayer || isEmbeddingNamespace unit id)
              obtain ⟨others, othersBound, dischargesOthers⟩ :=
                restHypothesis fun child member => below child (List.mem_cons_of_mem _ member)
              refine ⟨first + others, ?_, discharges.append dischargesOthers⟩
              rw [List.map_cons, List.sum_cons]
              omega
        obtain ⟨steps, bound, discharges⟩ := children _ fun _ member => member
        exact ⟨steps + 2, by omega, discharges_enter noTemplate discharges⟩

/-- The walk inspects the visits of the recursive one. -/
theorem walk_eq_forAll_visits
    (built : unit.IsBuilt)
    {State : Type}
    (inspect : Visit → Change State Unit) :
    walk unit inspect = forAll inspect (visits unit) := by
  obtain ⟨steps, bound, discharges⟩ :=
    discharges_visitsBelow built built.isOrderly.nonempty (Nat.le_add_right _ root) false
  have enough := Nat.le_trans bound (Nat.mul_le_mul_left 2 (unit.card_covered_le root))
  have ended (more : Nat) : walkWithin unit inspect more [] = pure () := by cases more <;> rfl
  have run := discharges inspect [] (2 * unit.nodes.size - steps)
  rw [Nat.add_sub_cancel' enough, List.append_nil, ended] at run
  calc walk unit inspect
      = (forAll inspect (visits unit) >>= fun _ => pure ()) := run
    _ = forAll inspect (visits unit) := bind_pure _

end Recursion

end BindingStubs.Traversal
