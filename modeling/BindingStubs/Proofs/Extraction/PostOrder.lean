import BindingStubs.Extraction.Fragment
import BindingStubs.Proofs.Extraction.Walk

namespace BindingStubs.Traversal

/-!
# Visits come in post-order

The visits of a unit are the post-order of its tree without the templates: every node that is left
comes once, behind everything below it and behind its earlier siblings with everything below them.
Its flag tells whether it stands inside the namespace of the embedding layer.
-/

open BindingModel TranslationUnit

/-- The post-order of a node and of what stands below it, without templates and what stands below
them. -/
inductive PostOrder
    (unit : TranslationUnit) :
    NodeId → List NodeId → Prop where
  | template {id : NodeId} :
      isTemplate unit id →
      PostOrder unit id []
  | node {id : NodeId} {parts : List (List NodeId)} :
      isTemplate unit id = false →
      List.Forall₂ (PostOrder unit) (unit.children id) parts →
      PostOrder unit id (parts.flatten ++ [id])

section PostOrder

variable {unit : TranslationUnit}

/-- Enough levels make the recursive walk a post-order. -/
theorem postOrder_visitsBelow
    (orderly : unit.IsOrderly)
    {levels id : Nat}
    (inside : id < unit.nodes.size)
    (enough : unit.nodes.size ≤ levels + id)
    (inLayer : Bool) :
    PostOrder unit id ((visitsBelow unit levels id inLayer).map Visit.node) := by
  induction id using orderly.induction_on_children generalizing levels inLayer with
  | step id inductionHypothesis =>
      obtain _ | levels := levels
      · omega
      rw [visitsBelow]
      split
      · exact .template ‹_›
      · rename_i noTemplate
        rw [List.map_append, List.flatMap_def, List.map_flatten, List.map_map]
        refine .node (Bool.not_eq_true _ ▸ noTemplate) ?_
        rw [List.forall₂_map_right_iff, List.forall₂_same]
        intro child member
        have after := orderly.lt_child member
        exact inductionHypothesis child member (orderly.child_lt member) (by omega) _

/-- The flag of a visit tells whether the node or a node above it is the namespace of the layer. -/
theorem inLayer_of_mem_visitsBelow
    (orderly : unit.IsOrderly)
    {levels : Nat}
    {id : NodeId}
    {visit : Visit}
    (member :
      visit ∈ visitsBelow unit levels id ((unit.ancestors id).any (isEmbeddingNamespace unit))) :
    visit.inLayer ↔
      ∃ layer, unit.Covers layer visit.node ∧ isEmbeddingNamespace unit layer := by
  induction levels generalizing id with
  | zero => cases member
  | succ levels inductionHypothesis =>
      have flag :
          ((unit.ancestors id).any (isEmbeddingNamespace unit) || isEmbeddingNamespace unit id) =
            (id :: unit.ancestors id).any (isEmbeddingNamespace unit) := by
        rw [List.any_cons, Bool.or_comm]
      rw [visitsBelow, flag] at member
      split at member
      · cases member
      · rcases List.mem_append.mp member with below | atNode
        · obtain ⟨child, isChild, ofChild⟩ := List.mem_flatMap.mp below
          rw [← orderly.ancestors_of_parent (orderly.parent_child isChild)] at ofChild
          exact inductionHypothesis ofChild
        · rw [List.mem_singleton.mp atNode, List.any_eq_true]
          rfl

/-- A node stands in the post-orders of children in a row if it stands in one of them. -/
theorem mem_flatten_iff
    {id : NodeId}
    {nodes : List NodeId}
    {parts : List (List NodeId)}
    {standsBelow : NodeId → Prop}
    (postOrders : List.Forall₂ (PostOrder unit) nodes parts)
    (each : ∀ node ∈ nodes, ∀ part, PostOrder unit node part → (id ∈ part ↔ standsBelow node)) :
    id ∈ parts.flatten ↔ ∃ node ∈ nodes, standsBelow node := by
  induction postOrders with
  | nil => simp
  | cons first _ inductionHypothesis =>
      have rest := inductionHypothesis fun node member => each node (List.mem_cons_of_mem _ member)
      rw [List.flatten_cons, List.mem_append, each _ List.mem_cons_self _ first, rest]
      simp only [List.mem_cons, exists_eq_or_imp]

/-- The nodes of a post-order stand below its top, with no template in between. -/
theorem PostOrder.mem_iff
    (orderly : unit.IsOrderly)
    {top : NodeId}
    {nodes : List NodeId}
    (postOrder : PostOrder unit top nodes)
    (id : NodeId) :
    id ∈ nodes ↔
      unit.Covers top id ∧
        ∀ node, unit.Covers top node → unit.Covers node id → isTemplate unit node = false := by
  induction top using orderly.induction_on_children generalizing nodes with
  | step top inductionHypothesis =>
      cases postOrder with
      | template template =>
          refine iff_of_false List.not_mem_nil fun ⟨covers, plain⟩ => ?_
          rw [plain top (unit.covers_self top) covers] at template
          cases template
      | @node _ parts noTemplate ofChildren =>
          rw [List.mem_append, List.mem_singleton,
            mem_flatten_iff ofChildren fun child isChild part => inductionHypothesis child isChild]
          constructor
          · rintro (⟨child, isChild, covers, plain⟩ | rfl)
            · refine ⟨orderly.covers_trans (orderly.covers_child isChild) covers,
                fun node below above => ?_⟩
              rcases orderly.covers_iff_children.mp below with rfl | ⟨other, isOther, ofOther⟩
              · exact noTemplate
              · have same :=
                  orderly.sibling_eq isChild isOther covers (orderly.covers_trans ofOther above)
                exact plain node (same ▸ ofOther) above
            · refine ⟨unit.covers_self id, fun node below above => ?_⟩
              have same := Nat.le_antisymm (orderly.covers_le above) (orderly.covers_le below)
              exact same ▸ noTemplate
          · rintro ⟨covers, plain⟩
            rcases orderly.covers_iff_children.mp covers with rfl | ⟨child, isChild, ofChild⟩
            · exact .inr rfl
            · refine .inl ⟨child, isChild, ofChild, fun node below above => ?_⟩
              exact plain node (orderly.covers_trans (orderly.covers_child isChild) below) above

/-- The post-orders of different children in a row keep their nodes apart. -/
theorem pairwise_flatten
    (orderly : unit.IsOrderly)
    {top : NodeId}
    {nodes : List NodeId}
    {parts : List (List NodeId)}
    (postOrders : List.Forall₂ (PostOrder unit) nodes parts)
    (children : ∀ node ∈ nodes, node ∈ unit.children top)
    (distinct : nodes.Nodup)
    (each :
      ∀ node ∈ nodes, ∀ part, PostOrder unit node part →
        part.Pairwise fun earlier later => ¬ unit.Covers earlier later) :
    parts.flatten.Pairwise fun earlier later => ¬ unit.Covers earlier later := by
  induction postOrders with
  | nil => exact .nil
  | @cons first part rest others ofFirst ofRest inductionHypothesis =>
      obtain ⟨fresh, distinctRest⟩ := List.nodup_cons.mp distinct
      have isChild := children first List.mem_cons_self
      have restChildren (node : NodeId) (member : node ∈ rest) : node ∈ unit.children top :=
        children node (List.mem_cons_of_mem _ member)
      rw [List.flatten_cons, List.pairwise_append]
      refine ⟨each first List.mem_cons_self part ofFirst,
        inductionHypothesis restChildren distinctRest
          fun node member => each node (List.mem_cons_of_mem _ member), ?_⟩
      intro earlier inFirst later inRest covers
      have belowFirst := (ofFirst.mem_iff orderly earlier).mp inFirst
      obtain ⟨sibling, isSibling, belowSibling⟩ :=
        (mem_flatten_iff ofRest fun node _ part ofNode => ofNode.mem_iff orderly later).mp inRest
      have same :=
        orderly.sibling_eq isChild (restChildren sibling isSibling)
          (orderly.covers_trans belowFirst.1 covers) belowSibling.1
      exact fresh (same ▸ isSibling)

/-- No node of a post-order comes before a node that stands below it, or before itself. -/
theorem PostOrder.pairwise
    (built : unit.IsBuilt)
    {top : NodeId}
    {nodes : List NodeId}
    (postOrder : PostOrder unit top nodes) :
    nodes.Pairwise fun earlier later => ¬ unit.Covers earlier later := by
  have orderly := built.isOrderly
  induction top using orderly.induction_on_children generalizing nodes with
  | step top inductionHypothesis =>
      cases postOrder with
      | template template => exact .nil
      | @node _ parts noTemplate ofChildren =>
          have distinct : (unit.children top).Nodup :=
            (built.increasing_children top).imp Nat.ne_of_lt
          refine List.pairwise_append.mpr
            ⟨pairwise_flatten orderly ofChildren (fun _ member => member) distinct
                fun child isChild part => inductionHypothesis child isChild,
              List.pairwise_singleton .., ?_⟩
          intro earlier below later atTop covers
          rw [List.mem_singleton.mp atTop] at covers
          obtain ⟨child, isChild, ofChild⟩ :=
            (mem_flatten_iff ofChildren fun node _ part ofNode =>
              ofNode.mem_iff orderly earlier).mp below
          exact orderly.not_covers_of_child isChild (orderly.covers_trans ofChild.1 covers)

end PostOrder

/-! ## The walk of a unit -/

theorem isTemplate_eq_false_iff
    {unit : TranslationUnit}
    {id : NodeId} :
    isTemplate unit id = false ↔
      unit.kind id ≠ .classTemplate ∧ unit.kind id ≠ .functionTemplate := by
  simp [isTemplate]

theorem isEmbeddingNamespace_iff
    {unit : TranslationUnit}
    {id : NodeId} :
    isEmbeddingNamespace unit id ↔
      unit.kind id = .nameSpace ∧ unit.spelling id = "pyembed" ∧
        ∃ parent, (unit.node id).parent = some parent ∧ unit.kind parent = .translationUnit := by
  simp [isEmbeddingNamespace, Idiom.embeddingNamespace, and_assoc]

/-- Whatever the inspection of a visit does, the walk of a built unit inspects its nodes in
post-order, up to the first fault.  Left out are the templates with everything below them, each
other node comes once and behind everything below it, and its flag tells whether it stands inside
the namespace of the embedding layer. -/
theorem walk_inspects_in_postOrder
    {unit : TranslationUnit}
    (built : unit.IsBuilt) :
    ∃ visits : List Visit,
      (∀ {State : Type} (inspect : Visit → Change State Unit),
        walk unit inspect = forAll inspect visits) ∧
      PostOrder unit root (visits.map Visit.node) ∧
      (∀ id,
        id ∈ visits.map Visit.node ↔
          unit.Covers root id ∧
            ∀ node, unit.Covers node id →
              unit.kind node ≠ .classTemplate ∧ unit.kind node ≠ .functionTemplate) ∧
      ((visits.map Visit.node).Pairwise fun earlier later => ¬ unit.Covers earlier later) ∧
      ∀ visit ∈ visits,
        visit.inLayer ↔
          ∃ layer, unit.Covers layer visit.node ∧
            unit.kind layer = .nameSpace ∧ unit.spelling layer = "pyembed" ∧
              ∃ parent,
                (unit.node layer).parent = some parent ∧ unit.kind parent = .translationUnit := by
  have orderly := built.isOrderly
  have postOrder : PostOrder unit root ((visits unit).map Visit.node) :=
    postOrder_visitsBelow orderly orderly.nonempty (Nat.le_add_right _ root) false
  simp only [← isTemplate_eq_false_iff, ← isEmbeddingNamespace_iff]
  refine ⟨visits unit, walk_eq_forAll_visits built, postOrder, fun id => ?_,
    postOrder.pairwise built, fun visit member => ?_⟩
  · rw [postOrder.mem_iff orderly]
    refine and_congr_right fun belowRoot =>
      ⟨fun plain node covers => ?_, fun plain node _ => plain node⟩
    exact plain node (orderly.root_covers belowRoot covers) covers
  · have atRoot :
        visit ∈ visitsBelow unit unit.nodes.size root
          ((unit.ancestors root).any (isEmbeddingNamespace unit)) := member
    exact inLayer_of_mem_visitsBelow orderly atRoot

/-- A chain of two calls, with a function template and the namespace of the embedding layer behind
it. -/
def chainBuilder : UnitBuilder :=
  UnitBuilder.start "chain.cpp"
    |>.push (some 0) { kind := .function, spelling := "register_bindings" }
    |>.push (some 1) { kind := .call, spelling := "add_method" }
    |>.push (some 2) { kind := .memberReference, spelling := "add_method" }
    |>.push (some 3) { kind := .call, spelling := "add_constructor" }
    |>.push (some 0) { kind := .functionTemplate, spelling := "register_all" }
    |>.push (some 5) { kind := .call, spelling := "add_method" }
    |>.push (some 0) { kind := .nameSpace, spelling := "pyembed" }
    |>.push (some 7) { kind := .structDeclaration, spelling := "ModuleDef" }

/-- The unit of the chain is built, so its walk is in post-order. -/
theorem walk_chain :
    chainBuilder.finish.IsBuilt ∧
      ∃ visits : List Visit,
        (∀ {State : Type} (inspect : Visit → Change State Unit),
          walk chainBuilder.finish inspect = forAll inspect visits) ∧
        PostOrder chainBuilder.finish root (visits.map Visit.node) := by
  have built : chainBuilder.finish.IsBuilt := by
    refine ⟨chainBuilder, ?_, rfl⟩
    repeat refine .push _ _ ?_ (by rintro _ ⟨⟩; decide)
    exact .start _
  obtain ⟨visits, inspected, postOrder, -⟩ := walk_inspects_in_postOrder built
  exact ⟨built, visits, inspected, postOrder⟩

/-- The inner call of the chain comes first, and the call of the template is left out. -/
example :
    visits chainBuilder.finish =
      [⟨4, false⟩, ⟨3, false⟩, ⟨2, false⟩, ⟨1, false⟩, ⟨8, true⟩, ⟨7, true⟩, ⟨0, false⟩] := by
  decide +kernel

end BindingStubs.Traversal
