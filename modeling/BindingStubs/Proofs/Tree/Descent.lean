import BindingStubs.Proofs.Tree.Orderly
import Mathlib.Algebra.BigOperators.Group.Finset.Basic
import Mathlib.Algebra.Order.BigOperators.Group.Finset
import Mathlib.Algebra.Ring.Nat

namespace BindingStubs

/-!
# Nodes above and below each other

A node covers itself and everything below it.  The nodes above one node are a chain, so two nodes
that cover a third one cover each other, and the children of a node cover different nodes.
-/

namespace UnitBuilder

/-- New nodes come last among the children of their parent. -/
theorem IsReachable.increasing_children
    {builder : UnitBuilder}
    (reachable : builder.IsReachable)
    (id : NodeId) :
    (builder.unindexed.children id).Pairwise (· < ·) := by
  induction reachable with
  | start path => cases id <;> exact .nil
  | @push builder parent spec reachable inside inductionHypothesis =>
      rw [children_push inside]
      split
      · refine List.pairwise_append.mpr ⟨inductionHypothesis, List.pairwise_singleton .., ?_⟩
        rintro child member _ fresh
        rw [List.mem_singleton.mp fresh]
        exact reachable.isOrderly.child_lt member
      · rwa [List.append_nil]
  | setReferenced target reference _ inductionHypothesis =>
      rwa [children_setReferenced]

end UnitBuilder

namespace TranslationUnit

theorem IsBuilt.increasing_children
    {unit : TranslationUnit}
    (built : unit.IsBuilt)
    (id : NodeId) :
    (unit.children id).Pairwise (· < ·) := by
  obtain ⟨builder, reachable, rfl⟩ := built
  exact reachable.increasing_children id

/-- Whether a node is another one or stands somewhere above it. -/
def Covers
    (unit : TranslationUnit)
    (top id : NodeId) :
    Prop :=
  top ∈ id :: unit.ancestors id

instance
    (unit : TranslationUnit)
    (top id : NodeId) :
    Decidable (unit.Covers top id) :=
  inferInstanceAs (Decidable (top ∈ id :: unit.ancestors id))

theorem covers_self
    (unit : TranslationUnit)
    (id : NodeId) :
    unit.Covers id id :=
  List.mem_cons_self

namespace IsOrderly

variable {unit : TranslationUnit} {top other id : NodeId}

/-- A node without a parent is covered by itself only. -/
theorem covers_iff_of_orphan
    (orphan : (unit.node id).parent = none) :
    unit.Covers top id ↔ top = id := by
  rw [Covers, ancestors_of_parent_eq_none orphan, List.mem_singleton]

/-- A node is covered by itself and by what covers its parent. -/
theorem covers_iff_of_parent
    (orderly : unit.IsOrderly)
    {parent : NodeId}
    (above : (unit.node id).parent = some parent) :
    unit.Covers top id ↔ top = id ∨ unit.Covers top parent := by
  rw [Covers, orderly.ancestors_of_parent above, List.mem_cons, Covers]

theorem covers_le
    (orderly : unit.IsOrderly)
    (covers : unit.Covers top id) :
    top ≤ id := by
  induction id using orderly.induction_on_parent with
  | step id inductionHypothesis =>
      cases above : (unit.node id).parent with
      | none => exact Nat.le_of_eq ((covers_iff_of_orphan above).mp covers)
      | some parent =>
          rcases (orderly.covers_iff_of_parent above).mp covers with rfl | further
          · exact Nat.le_refl _
          · exact Nat.le_trans (inductionHypothesis parent above further)
              (Nat.le_of_lt (orderly.parent_lt above))

theorem covers_trans
    (orderly : unit.IsOrderly)
    (upper : unit.Covers top other)
    (lower : unit.Covers other id) :
    unit.Covers top id := by
  induction id using orderly.induction_on_parent with
  | step id inductionHypothesis =>
      cases above : (unit.node id).parent with
      | none => rwa [← (covers_iff_of_orphan above).mp lower]
      | some parent =>
          rcases (orderly.covers_iff_of_parent above).mp lower with rfl | further
          · exact upper
          · exact (orderly.covers_iff_of_parent above).mpr
              (.inr (inductionHypothesis parent above further))

/-- Of two nodes above a third one, one stands above the other. -/
theorem covers_total
    (orderly : unit.IsOrderly)
    (first : unit.Covers top id)
    (second : unit.Covers other id) :
    unit.Covers top other ∨ unit.Covers other top := by
  induction id using orderly.induction_on_parent with
  | step id inductionHypothesis =>
      cases above : (unit.node id).parent with
      | none =>
          rw [(covers_iff_of_orphan above).mp first, (covers_iff_of_orphan above).mp second]
          exact .inl (unit.covers_self id)
      | some parent =>
          rcases (orderly.covers_iff_of_parent above).mp first with rfl | firstFurther
          · exact .inr second
          · rcases (orderly.covers_iff_of_parent above).mp second with rfl | secondFurther
            · exact .inl first
            · exact inductionHypothesis parent above firstFurther secondFurther

theorem covers_child
    (orderly : unit.IsOrderly)
    (member : id ∈ unit.children top) :
    unit.Covers top id :=
  (orderly.covers_iff_of_parent (orderly.parent_child member)).mpr (.inr (unit.covers_self top))

/-- A node covers itself and what its children cover. -/
theorem covers_iff_children
    (orderly : unit.IsOrderly) :
    unit.Covers top id ↔ id = top ∨ ∃ child ∈ unit.children top, unit.Covers child id := by
  constructor
  · intro covers
    induction id using orderly.induction_on_parent with
    | step id inductionHypothesis =>
        cases above : (unit.node id).parent with
        | none => exact .inl ((covers_iff_of_orphan above).mp covers).symm
        | some parent =>
            have member := orderly.mem_children above
            rcases (orderly.covers_iff_of_parent above).mp covers with rfl | further
            · exact .inl rfl
            · rcases inductionHypothesis parent above further with rfl | ⟨child, isChild, below⟩
              · exact .inr ⟨id, member, unit.covers_self id⟩
              · exact .inr
                  ⟨child, isChild, orderly.covers_trans below (orderly.covers_child member)⟩
  · rintro (rfl | ⟨child, isChild, below⟩)
    · exact unit.covers_self id
    · exact orderly.covers_trans (orderly.covers_child isChild) below

theorem not_covers_of_child
    (orderly : unit.IsOrderly)
    (member : id ∈ unit.children top) :
    ¬ unit.Covers id top :=
  fun covers => Nat.not_lt.mpr (orderly.covers_le covers) (orderly.lt_child member)

/-- No node is covered by two children of one node. -/
theorem sibling_eq
    (orderly : unit.IsOrderly)
    {child sibling : NodeId}
    (isChild : child ∈ unit.children top)
    (isSibling : sibling ∈ unit.children top)
    (first : unit.Covers child id)
    (second : unit.Covers sibling id) :
    child = sibling := by
  rcases orderly.covers_total first second with covers | covers
  · rcases (orderly.covers_iff_of_parent (orderly.parent_child isSibling)).mp covers with
      same | atTop
    · exact same
    · exact absurd atTop (orderly.not_covers_of_child isChild)
  · rcases (orderly.covers_iff_of_parent (orderly.parent_child isChild)).mp covers with
      same | atTop
    · exact same.symm
    · exact absurd atTop (orderly.not_covers_of_child isSibling)

/-- What stands above a node below the root stands below the root. -/
theorem root_covers
    (orderly : unit.IsOrderly)
    (belowRoot : unit.Covers root id)
    (covers : unit.Covers other id) :
    unit.Covers root other := by
  rcases orderly.covers_total belowRoot covers with ofRoot | toRoot
  · exact ofRoot
  · have isRoot : other = root := Nat.le_zero.mp (orderly.covers_le toRoot)
    exact isRoot ▸ unit.covers_self root

end IsOrderly

/-! ## Counting the nodes below a node -/

/-- The nodes of a unit that a node covers. -/
def covered
    (unit : TranslationUnit)
    (top : NodeId) :
    Finset NodeId :=
  (Finset.range unit.nodes.size).filter (unit.Covers top)

theorem mem_covered_iff
    {unit : TranslationUnit}
    {top id : NodeId} :
    id ∈ unit.covered top ↔ id < unit.nodes.size ∧ unit.Covers top id := by
  rw [covered, Finset.mem_filter, Finset.mem_range]

theorem card_covered_le
    (unit : TranslationUnit)
    (top : NodeId) :
    (unit.covered top).card ≤ unit.nodes.size :=
  (Finset.card_filter_le _ _).trans_eq (Finset.card_range _)

/-- The children of a node cover fewer nodes in total than the node. -/
theorem sum_card_covered_lt
    {unit : TranslationUnit}
    (built : unit.IsBuilt)
    {top : Nat}
    (inside : top < unit.nodes.size) :
    ((unit.children top).map fun child => (unit.covered child).card).sum <
      (unit.covered top).card := by
  have orderly := built.isOrderly
  have distinct : (unit.children top).Nodup :=
    (built.increasing_children top).imp Nat.ne_of_lt
  rw [← List.sum_toFinset _ distinct, ← Finset.card_biUnion]
  · refine Finset.card_lt_card (Finset.ssubset_iff_of_subset ?_ |>.mpr ⟨top, ?_, ?_⟩)
    · intro id member
      obtain ⟨child, isChild, below⟩ := Finset.mem_biUnion.mp member
      rw [mem_covered_iff] at below ⊢
      exact ⟨below.1,
        orderly.covers_trans (orderly.covers_child (List.mem_toFinset.mp isChild)) below.2⟩
    · exact mem_covered_iff.mpr ⟨inside, unit.covers_self top⟩
    · intro member
      obtain ⟨child, isChild, below⟩ := Finset.mem_biUnion.mp member
      exact orderly.not_covers_of_child (List.mem_toFinset.mp isChild) (mem_covered_iff.mp below).2
  · intro child isChild sibling isSibling apart
    refine Finset.disjoint_left.mpr fun id first second => apart ?_
    exact orderly.sibling_eq (List.mem_toFinset.mp isChild) (List.mem_toFinset.mp isSibling)
      (mem_covered_iff.mp first).2 (mem_covered_iff.mp second).2

end TranslationUnit

end BindingStubs
