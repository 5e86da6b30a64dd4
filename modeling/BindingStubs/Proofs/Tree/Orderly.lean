import BindingStubs.Extraction.Shape

namespace BindingStubs

/-!
# Built translation units are orderly

A builder adds one node after the other, each below a node that it already has.  So children
follow their parents in the array, a node is the child of its parent, and no other node has it as
a child.  From this order comes the meaning of the bounds in the definitions: the position of a
node bounds its ancestors, and the size of the array bounds the wrappers below a node.
-/

namespace UnitBuilder

/-- The builders that are reached from an empty unit by adding nodes below present ones, or
detached, and by setting references. -/
inductive IsReachable : UnitBuilder → Prop
  | start (path : String) : IsReachable (start path)
  | push {builder : UnitBuilder} (parent : Option NodeId) (spec : NodeSpec) :
      IsReachable builder →
      (∀ id, parent = some id → id < builder.nodes.size) →
      IsReachable (builder.push parent spec)
  | setReferenced {builder : UnitBuilder} (id target : NodeId) :
      IsReachable builder →
      IsReachable (builder.setReferenced id target)

end UnitBuilder

namespace TranslationUnit

/-- Whether a unit is a finished builder. -/
def IsBuilt
    (unit : TranslationUnit) :
    Prop :=
  ∃ builder : UnitBuilder, builder.IsReachable ∧ builder.finish = unit

/-- How the nodes of a built unit are linked. -/
structure IsOrderly
    (unit : TranslationUnit) :
    Prop where
  nonempty : 0 < unit.nodes.size
  lt_child : ∀ {id child : Nat}, child ∈ unit.children id → id < child
  child_lt : ∀ {id child : Nat}, child ∈ unit.children id → child < unit.nodes.size
  parent_child : ∀ {id child}, child ∈ unit.children id → (unit.node child).parent = some id
  mem_children : ∀ {id parent}, (unit.node id).parent = some parent → id ∈ unit.children parent

/-- There is nothing to read beyond the last node. -/
theorem node_of_size_le
    {unit : TranslationUnit}
    {id : Nat}
    (beyond : unit.nodes.size ≤ id) :
    unit.node id = {} := by
  rw [node, Array.getElem?_eq_none beyond, Option.getD_none]

/-- The nodes of a unit without its table of type declarations. -/
def bare
    (unit : TranslationUnit) :
    TranslationUnit :=
  { path := unit.path, nodes := unit.nodes }

/-- Whether the table of type declarations is the one that the nodes give. -/
def IsIndexed
    (unit : TranslationUnit) :
    Prop :=
  unit.typeDeclarations =
    (List.range unit.nodes.size).foldl (UnitBuilder.indexDeclaration unit.bare) {}

end TranslationUnit

/-! ## What a builder keeps -/

namespace UnitBuilder

/-- The unit of a builder before its type declarations are indexed. -/
def unindexed
    (builder : UnitBuilder) :
    TranslationUnit :=
  { path := builder.path, nodes := builder.nodes }

@[simp] theorem parent_nodeOf
    (parent : Option NodeId)
    (spec : NodeSpec) :
    (nodeOf parent spec).parent = parent :=
  rfl

@[simp] theorem children_nodeOf
    (parent : Option NodeId)
    (spec : NodeSpec) :
    (nodeOf parent spec).children = [] :=
  rfl

@[simp] theorem size_push
    (builder : UnitBuilder)
    (parent : Option NodeId)
    (spec : NodeSpec) :
    (builder.push parent spec).nodes.size = builder.nodes.size + 1 := by
  cases parent <;> simp [push]

@[simp] theorem size_setReferenced
    (builder : UnitBuilder)
    (id target : NodeId) :
    (builder.setReferenced id target).nodes.size = builder.nodes.size := by
  simp [setReferenced]

/-- A new node has no children, and becomes the last child of its parent. -/
theorem children_push
    {builder : UnitBuilder}
    {parent : Option NodeId}
    (inside : ∀ id, parent = some id → id < builder.nodes.size)
    (spec : NodeSpec)
    (id : NodeId) :
    (builder.push parent spec).unindexed.children id =
      builder.unindexed.children id ++ if parent = some id then [builder.nodes.size] else [] := by
  cases parent with
  | none =>
      simp only [push, unindexed, TranslationUnit.children, TranslationUnit.node,
        Array.getElem?_push, reduceCtorEq, if_false, List.append_nil]
      split
      · rename_i isNew
        simp [isNew]
      · rfl
  | some parent =>
      have present := inside parent rfl
      simp only [push, unindexed, TranslationUnit.children, TranslationUnit.node,
        Array.getElem?_modify, Array.getElem?_push, Option.some.injEq]
      by_cases isNew : id = builder.nodes.size
      · have notParent : parent ≠ builder.nodes.size := Nat.ne_of_lt present
        simp [isNew, notParent]
      · by_cases isParent : parent = id
        · subst isParent
          simp [isNew, Array.getElem?_eq_getElem present]
        · simp [isNew, isParent]

/-- A new node has the parent that it was added below, and the others keep theirs. -/
theorem parent_push
    (builder : UnitBuilder)
    (parent : Option NodeId)
    (spec : NodeSpec)
    (id : NodeId) :
    ((builder.push parent spec).unindexed.node id).parent =
      if id = builder.nodes.size then parent else (builder.unindexed.node id).parent := by
  cases parent with
  | none =>
      simp only [push, unindexed, TranslationUnit.node, Array.getElem?_push]
      split <;> simp
  | some parent =>
      simp only [push, unindexed, TranslationUnit.node, Array.getElem?_modify,
        Array.getElem?_push]
      by_cases isNew : id = builder.nodes.size
      · by_cases isParent : parent = builder.nodes.size <;> simp [isNew, isParent]
      · by_cases isParent : parent = id
        · simp only [isParent, isNew, if_true, if_false]
          cases builder.nodes[id]? <;> rfl
        · simp [isNew, isParent]

theorem children_setReferenced
    (builder : UnitBuilder)
    (target reference id : NodeId) :
    (builder.setReferenced reference target).unindexed.children id =
      builder.unindexed.children id := by
  simp only [setReferenced, unindexed, TranslationUnit.children, TranslationUnit.node,
    Array.getElem?_modify]
  split
  · cases builder.nodes[id]? <;> rfl
  · rfl

theorem parent_setReferenced
    (builder : UnitBuilder)
    (target reference id : NodeId) :
    ((builder.setReferenced reference target).unindexed.node id).parent =
      (builder.unindexed.node id).parent := by
  simp only [setReferenced, unindexed, TranslationUnit.node, Array.getElem?_modify]
  split
  · cases builder.nodes[id]? <;> rfl
  · rfl

theorem isOrderly_start
    (path : String) :
    (start path).unindexed.IsOrderly := by
  have noChildren (id : NodeId) : (start path).unindexed.children id = [] := by
    cases id <;> rfl
  have noParent (id : NodeId) : ((start path).unindexed.node id).parent = none := by
    cases id <;> rfl
  refine ⟨Nat.one_pos, ?_, ?_, ?_, ?_⟩ <;> simp [noChildren, noParent]

/-- A node that is added below one that is there keeps the tree orderly. -/
theorem isOrderly_push
    {builder : UnitBuilder}
    {parent : Option NodeId}
    (inside : ∀ above, parent = some above → above < builder.nodes.size)
    (orderly : builder.unindexed.IsOrderly)
    (spec : NodeSpec) :
    (builder.push parent spec).unindexed.IsOrderly := by
  have isChild {id child : NodeId}
      (member : child ∈ (builder.push parent spec).unindexed.children id) :
      child ∈ builder.unindexed.children id ∨
        (parent = some id ∧ child = builder.nodes.size) := by
    rw [children_push inside] at member
    rcases List.mem_append.mp member with former | fresh
    · exact .inl former
    · split at fresh
      · exact .inr ⟨‹_›, List.mem_singleton.mp fresh⟩
      · exact absurd fresh List.not_mem_nil
  have size : (builder.push parent spec).unindexed.nodes.size = builder.nodes.size + 1 :=
    size_push builder parent spec
  refine ⟨by omega, fun member => ?_, fun member => ?_, fun member => ?_, fun above => ?_⟩
  · rcases isChild member with former | ⟨isParent, rfl⟩
    · exact orderly.lt_child former
    · exact inside _ isParent
  · rcases isChild member with former | ⟨_, rfl⟩
    · exact size ▸ Nat.lt_succ_of_lt (orderly.child_lt former)
    · exact size ▸ Nat.lt_succ_self _
  · rw [parent_push]
    rcases isChild member with former | ⟨isParent, rfl⟩
    · have old : _ < builder.nodes.size := orderly.child_lt former
      rw [if_neg (Nat.ne_of_lt old), orderly.parent_child former]
    · rw [if_pos rfl, isParent]
  · rw [parent_push] at above
    rw [children_push inside]
    split at above
    · simp [above, ‹_ = builder.nodes.size›]
    · exact List.mem_append_left _ (orderly.mem_children above)

/-- What a node refers to does not matter for the order. -/
theorem isOrderly_setReferenced
    {builder : UnitBuilder}
    (orderly : builder.unindexed.IsOrderly)
    (id target : NodeId) :
    (builder.setReferenced id target).unindexed.IsOrderly := by
  have size : (builder.setReferenced id target).unindexed.nodes.size = builder.nodes.size :=
    size_setReferenced builder id target
  refine ⟨size ▸ orderly.nonempty, fun member => ?_, fun member => ?_, fun member => ?_,
    fun above => ?_⟩
  · rw [children_setReferenced] at member
    exact orderly.lt_child member
  · rw [children_setReferenced] at member
    exact size ▸ orderly.child_lt member
  · rw [children_setReferenced] at member
    rw [parent_setReferenced, orderly.parent_child member]
  · rw [parent_setReferenced] at above
    rw [children_setReferenced]
    exact orderly.mem_children above

/-- What a builder has added is orderly, whatever comes next. -/
theorem IsReachable.isOrderly
    {builder : UnitBuilder}
    (reachable : builder.IsReachable) :
    builder.unindexed.IsOrderly := by
  induction reachable with
  | start path => exact isOrderly_start path
  | push parent spec _ inside orderly => exact isOrderly_push inside orderly spec
  | setReferenced id target _ orderly => exact isOrderly_setReferenced orderly id target

end UnitBuilder

namespace TranslationUnit

theorem IsBuilt.isOrderly
    {unit : TranslationUnit}
    (built : unit.IsBuilt) :
    unit.IsOrderly := by
  obtain ⟨builder, reachable, rfl⟩ := built
  obtain ⟨nonempty, lt_child, child_lt, parent_child, mem_children⟩ := reachable.isOrderly
  exact ⟨nonempty, lt_child, child_lt, parent_child, mem_children⟩

theorem IsBuilt.isIndexed
    {unit : TranslationUnit}
    (built : unit.IsBuilt) :
    unit.IsIndexed := by
  obtain ⟨builder, _, rfl⟩ := built
  rfl

/-! ## Following the order -/

namespace IsOrderly

variable {unit : TranslationUnit}

theorem bare
    (orderly : unit.IsOrderly) :
    unit.bare.IsOrderly :=
  ⟨orderly.nonempty, orderly.lt_child, orderly.child_lt, orderly.parent_child,
    orderly.mem_children⟩

/-- What holds of a node when it holds of its children holds of every node. -/
theorem induction_on_children
    (orderly : unit.IsOrderly)
    {motive : NodeId → Prop}
    (step : ∀ id, (∀ child ∈ unit.children id, motive child) → motive id)
    (id : NodeId) :
    motive id := by
  induction remaining : unit.nodes.size - id using Nat.strongRecOn generalizing id with
  | ind remaining inductionHypothesis =>
      refine step id fun child member => inductionHypothesis _ ?_ child rfl
      have := orderly.lt_child member
      have := orderly.child_lt member
      omega

theorem parent_lt
    (orderly : unit.IsOrderly)
    {id parent : Nat}
    (above : (unit.node id).parent = some parent) :
    parent < id :=
  orderly.lt_child (orderly.mem_children above)

/-- What holds of a node when it holds of its parent holds of every node. -/
theorem induction_on_parent
    (orderly : unit.IsOrderly)
    {motive : NodeId → Prop}
    (step : ∀ id, (∀ parent, (unit.node id).parent = some parent → motive parent) → motive id)
    (id : NodeId) :
    motive id := by
  induction id using Nat.strongRecOn with
  | ind id inductionHypothesis =>
      exact step id fun parent above => inductionHypothesis parent (orderly.parent_lt above)

theorem ancestorsWithin_succ
    (orderly : unit.IsOrderly)
    {levels id : Nat}
    (enough : id ≤ levels) :
    unit.ancestorsWithin (levels + 1) id = unit.ancestorsWithin levels id := by
  induction levels generalizing id with
  | zero =>
      have isRoot : id = 0 := Nat.le_zero.mp enough
      have orphan : (unit.node id).parent = none := by
        cases above : (unit.node id).parent with
        | none => rfl
        | some parent => exact absurd (isRoot ▸ orderly.parent_lt above) (Nat.not_lt_zero _)
      simp [ancestorsWithin, orphan]
  | succ levels inductionHypothesis =>
      rw [ancestorsWithin, ancestorsWithin]
      cases above : (unit.node id).parent with
      | none => rfl
      | some parent =>
          have before := orderly.parent_lt above
          exact congrArg (parent :: ·) (inductionHypothesis (by omega))

theorem ancestorsWithin_eq_ancestors
    (orderly : unit.IsOrderly)
    {levels id : Nat}
    (enough : id ≤ levels) :
    unit.ancestorsWithin levels id = unit.ancestors id := by
  induction enough with
  | refl => rfl
  | step enough inductionHypothesis =>
      rw [orderly.ancestorsWithin_succ enough, inductionHypothesis]

/-- A node without a parent has no ancestors. -/
theorem ancestors_of_parent_eq_none
    {id : NodeId}
    (orphan : (unit.node id).parent = none) :
    unit.ancestors id = [] := by
  cases id <;> simp [ancestors, ancestorsWithin, orphan]

/-- The ancestors of a node are its parent and the ancestors of that. -/
theorem ancestors_of_parent
    (orderly : unit.IsOrderly)
    {id parent : NodeId}
    (above : (unit.node id).parent = some parent) :
    unit.ancestors id = parent :: unit.ancestors parent := by
  have before := orderly.parent_lt above
  rw [← orderly.ancestorsWithin_eq_ancestors (Nat.le_succ id), ancestorsWithin, above]
  simp only [orderly.ancestorsWithin_eq_ancestors (Nat.le_of_lt before)]

end IsOrderly

end TranslationUnit

/-! ## Passing over wrappers -/

namespace Shape

open TranslationUnit

variable {unit : TranslationUnit}

theorem wrapped?_eq_some_iff
    {id inner : NodeId} :
    wrapped? unit id = some inner ↔
      (unit.kind id).isTransparent ∧ unit.children id = [inner] := by
  rw [wrapped?]
  split
  · split <;> simp_all
  · simp_all

theorem mem_children_of_wrapped?
    {id inner : NodeId}
    (wraps : wrapped? unit id = some inner) :
    inner ∈ unit.children id := by
  simp [(wrapped?_eq_some_iff.mp wraps).2]

theorem unwrapWithin_succ
    (orderly : unit.IsOrderly)
    {levels id : Nat}
    (enough : unit.nodes.size ≤ levels + id) :
    unwrapWithin unit (levels + 1) id = unwrapWithin unit levels id := by
  induction levels generalizing id with
  | zero =>
      cases wraps : wrapped? unit id with
      | none => simp [unwrapWithin, wraps]
      | some inner =>
          have member := mem_children_of_wrapped? wraps
          have := orderly.lt_child member
          have := orderly.child_lt member
          omega
  | succ levels inductionHypothesis =>
      rw [unwrapWithin, unwrapWithin]
      cases wraps : wrapped? unit id with
      | none => rfl
      | some inner =>
          have := orderly.lt_child (mem_children_of_wrapped? wraps)
          exact inductionHypothesis (by omega)

/-- What is no wrapper is its own expression. -/
theorem unwrap_of_wrapped?_eq_none
    {id : NodeId}
    (plain : wrapped? unit id = none) :
    unwrap unit id = id := by
  rw [unwrap]
  cases unit.nodes.size <;> simp [unwrapWithin, plain]

/-- A wrapper stands for the expression of its child. -/
theorem unwrap_of_wrapped?
    (orderly : unit.IsOrderly)
    {id inner : NodeId}
    (wraps : wrapped? unit id = some inner) :
    unwrap unit id = unwrap unit inner := by
  rw [unwrap, ← unwrapWithin_succ orderly (Nat.le_add_right _ id), unwrapWithin, wraps, unwrap]

end Shape

end BindingStubs
