import BindingStubs.Proofs.Dump.Conversion
import BindingStubs.Proofs.Keyed

namespace BindingStubs

/-!
# References in a dump

A printed node may name a declaration that is printed later, or never.  Such references wait until
everything is added, and are then linked in order against a table of identities that linking itself
extends.  In the end all references to one declaration lead to the first node that was printed for
it, or else to one node that linking adds.
-/

namespace DumpConversion

open TranslationUnit UnitBuilder

/-! ## What is printed -/

mutual

/-- A printed node and those inside it, in the order in which they are printed. -/
def inPrintOrder : DumpNode → List DumpNode
  | .node entry inner => .node entry inner :: inPrintOrderAll inner

/-- Printed nodes and those inside them, in order. -/
def inPrintOrderAll : List DumpNode → List DumpNode
  | [] => []
  | node :: rest => inPrintOrder node ++ inPrintOrderAll rest

end

mutual

/-- A printed node and those inside it, each with the node that stands for it. -/
def standing
    (unit : TranslationUnit)
    (id : NodeId) :
    DumpNode → List (NodeId × DumpNode)
  | .node entry inner =>
      (id, .node entry inner) :: standingAll unit (printedChildren unit id) inner

/-- Printed nodes and those inside them, each with the node that stands for it. -/
def standingAll
    (unit : TranslationUnit) :
    List NodeId → List DumpNode → List (NodeId × DumpNode)
  | id :: ids, node :: rest => standing unit id node ++ standingAll unit ids rest
  | _, _ => []

end

/-- What a printed node names: the identity of a declaration, with what is said about it. -/
inductive Names : DumpNode → String → NodeSpec → Prop where
  | declaration
      {entry : DumpEntry}
      {inner : List DumpNode}
      {reference : PrintedReference} :
      entry.nodeKind = .declarationReference →
      entry.referenced = some reference →
      Names (.node entry inner) reference.id (declarationSpec reference)
  | member
      {entry : DumpEntry}
      {inner : List DumpNode}
      {target : String} :
      entry.nodeKind = .memberReference →
      entry.referencedMember = some target →
      Names (.node entry inner) target
        { kind :=
            if entry.type.bind PrintedType.written = some boundMethodType then .method else .field
          spelling := entry.name.getD "" }
  | callee
      {entry callee : DumpEntry}
      {inner : List DumpNode}
      {reference : PrintedReference} :
      entry.nodeKind = .call →
      firstUnwrapped? inner = some callee →
      callee.referenced = some reference →
      Names (.node entry inner) reference.id (declarationSpec reference)
  | calledMember
      {entry callee : DumpEntry}
      {inner : List DumpNode}
      {target : String} :
      entry.nodeKind = .call →
      firstUnwrapped? inner = some callee →
      callee.referenced = none →
      callee.referencedMember = some target →
      Names (.node entry inner) target { kind := .method, spelling := callee.name.getD "" }

/-- The reference of a printed node that waits to be linked. -/
def waiting?
    (pair : NodeId × DumpNode) :
    Option OpenReference :=
  openReference? pair.2.entry.nodeKind pair.2.entry pair.2.inner pair.1

theorem waiting?_eq_some_iff
    {pair : NodeId × DumpNode}
    {reference : OpenReference} :
    waiting? pair = some reference ↔
      reference.node = pair.1 ∧ Names pair.2 reference.target reference.fallback := by
  obtain ⟨id, entry, inner⟩ := pair
  obtain ⟨node, target, fallback⟩ := reference
  simp only [waiting?, DumpNode.entry, DumpNode.inner]
  constructor
  · intro found
    unfold openReference? at found
    split at found
    · rename_i isReference
      obtain ⟨reference, referenced, ⟨⟩⟩ := Option.map_eq_some_iff.mp found
      exact ⟨rfl, .declaration isReference referenced⟩
    · rename_i isMember
      obtain ⟨target, referenced, ⟨⟩⟩ := Option.map_eq_some_iff.mp found
      refine ⟨rfl, ?_⟩
      simpa using Names.member isMember referenced
    · rename_i isCall
      obtain ⟨callee, isCallee, found⟩ := Option.bind_eq_some_iff.mp found
      split at found
      · rename_i referenced
        cases found
        exact ⟨rfl, .callee isCall isCallee referenced⟩
      · rename_i notReferenced referenced
        cases found
        exact ⟨rfl, .calledMember isCall isCallee notReferenced referenced⟩
      · cases found
    · cases found
  · rintro ⟨rfl, names⟩
    cases names with
    | declaration isReference referenced => simp [openReference?, isReference, referenced]
    | member isMember referenced => simp [openReference?, isMember, referenced]
    | callee isCall isCallee referenced => simp [openReference?, isCall, isCallee, referenced]
    | calledMember isCall isCallee notReferenced referenced =>
        simp [openReference?, isCall, isCallee, notReferenced, referenced]

mutual

theorem standing_of_agreeOn
    {places : NodeId → Prop}
    {first last : TranslationUnit}
    (agree : AgreeOn places first last)
    {id : NodeId}
    (isPlace : places id) :
    (node : DumpNode) →
    standing last id node = standing first id node
  | .node entry inner => by
      have arePlaces : ∀ child ∈ printedChildren first id, places child :=
        fun child member => (agree id isPlace).2.2 child (List.mem_filter.mp member).1
      rw [standing, standing, agree.printedChildren_eq isPlace,
        standingAll_of_agreeOn agree arePlaces inner]

theorem standingAll_of_agreeOn
    {places : NodeId → Prop}
    {first last : TranslationUnit}
    (agree : AgreeOn places first last) :
    {ids : List NodeId} →
    (arePlaces : ∀ id ∈ ids, places id) →
    (printed : List DumpNode) →
    standingAll last ids printed = standingAll first ids printed
  | [], _, printed => by simp [standingAll]
  | _ :: _, _, [] => by simp [standingAll]
  | id :: ids, arePlaces, node :: rest => by
      obtain ⟨isPlace, areOthers⟩ := List.forall_mem_cons.mp arePlaces
      rw [standingAll, standingAll, standing_of_agreeOn agree isPlace node,
        standingAll_of_agreeOn agree areOthers rest]

end

mutual

/-- Where a unit mirrors what is printed, a node stands for every printed one. -/
theorem map_standing
    {unit : TranslationUnit}
    {memory : Memory}
    {id : NodeId} :
    (node : DumpNode) →
    Mirrors unit memory id node →
    (standing unit id node).map Prod.snd = inPrintOrder node
  | .node entry inner, mirrors => by
      rw [Mirrors] at mirrors
      rw [standing, inPrintOrder, List.map_cons, map_standingAll inner mirrors.2]

theorem map_standingAll
    {unit : TranslationUnit}
    {memory : Memory} :
    {ids : List NodeId} →
    (printed : List DumpNode) →
    MirrorAll unit memory ids printed →
    (standingAll unit ids printed).map Prod.snd = inPrintOrderAll printed
  | [], [], _ => by simp [standingAll, inPrintOrderAll]
  | [], _ :: _, mirror => by simp [MirrorAll] at mirror
  | _ :: _, [], mirror => by simp [MirrorAll] at mirror
  | id :: ids, node :: rest, mirror => by
      rw [MirrorAll] at mirror
      rw [standingAll, inPrintOrderAll, List.map_append, map_standing node mirror.1,
        map_standingAll rest mirror.2]

end

/-! ## What a conversion remembers of printed nodes -/

/-- Whether the identity of a printed node is the given one. -/
def carries
    (identity : String)
    (pair : NodeId × DumpNode) :
    Bool :=
  pair.2.entry.id == identity

/-- A conversion after nodes were added for printed ones: their references wait in the order of
printing, and each identity leads to the first node that carries it. -/
structure Records
    (pairs : List (NodeId × DumpNode))
    (before after : State) :
    Prop where
  size_le : before.builder.nodes.size ≤ after.builder.nodes.size
  inside :
    ∀ pair ∈ pairs,
      before.builder.nodes.size ≤ pair.1 ∧ pair.1 < after.builder.nodes.size
  increasing : (pairs.map Prod.fst).Pairwise (· < ·)
  references_eq : after.references = (pairs.filterMap waiting?).reverse ++ before.references
  ids_eq :
    ∀ identity ≠ "",
      after.ids.get? identity =
        (before.ids.get? identity).or ((pairs.find? (carries identity)).map Prod.fst)

namespace Records

variable
  {pairs others : List (NodeId × DumpNode)}
  {first middle last : State}

theorem refl
    (state : State) :
    Records [] state state :=
  ⟨Nat.le_refl _, nofun, .nil, rfl, fun _ _ => by simp⟩

theorem append
    (records : Records pairs first middle)
    (recordsMore : Records others middle last) :
    Records (pairs ++ others) first last := by
  refine ⟨Nat.le_trans records.size_le recordsMore.size_le, ?_, ?_, ?_,
    fun identity nonempty => ?_⟩
  · intro pair member
    rcases List.mem_append.mp member with earlier | later
    · have ⟨isAfter, isBefore⟩ := records.inside pair earlier
      exact ⟨isAfter, Nat.lt_of_lt_of_le isBefore recordsMore.size_le⟩
    · have ⟨isAfter, isBefore⟩ := recordsMore.inside pair later
      exact ⟨Nat.le_trans records.size_le isAfter, isBefore⟩
  · rw [List.map_append, List.pairwise_append]
    refine ⟨records.increasing, recordsMore.increasing, fun id member other otherMember => ?_⟩
    obtain ⟨pair, inPairs, rfl⟩ := List.mem_map.mp member
    obtain ⟨pairOther, inOthers, rfl⟩ := List.mem_map.mp otherMember
    exact Nat.lt_of_lt_of_le (records.inside pair inPairs).2
      (recordsMore.inside pairOther inOthers).1
  · rw [recordsMore.references_eq, records.references_eq, List.filterMap_append,
      List.reverse_append, List.append_assoc]
  · rw [recordsMore.ids_eq identity nonempty, records.ids_eq identity nonempty, List.find?_append,
      Option.map_or, Option.or_assoc]

end Records

/-- The first node with an identity keeps it. -/
theorem get?_identify
    (ids : Keyed NodeId)
    (node : DumpNode)
    (id : NodeId)
    {identity : String}
    (nonempty : identity ≠ "") :
    (identify ids node.entry id).get? identity =
      (ids.get? identity).or (([(id, node)].find? (carries identity)).map Prod.fst) := by
  by_cases isCarried : node.entry.id = identity
  · have found : [(id, node)].find? (carries identity) = some (id, node) := by
      simp [carries, isCarried]
    have isNamed : node.entry.id.isEmpty = false := by simpa [isCarried] using nonempty
    rw [found, identify, isNamed, isCarried, Keyed.contains]
    cases earlier : ids.get? identity with
    | some first => simp [earlier]
    | none => simp [Keyed.get?_insert]
  · have notFound : [(id, node)].find? (carries identity) = none := by
      simp [carries, isCarried]
    rw [notFound, identify, Option.map_none, Option.or_none]
    split
    · rfl
    · rw [Keyed.get?_insert, if_neg (Ne.symm isCarried)]

mutual

/-- A node is remembered before those inside it.  Which nodes stand for these is read off the unit
at the end, since nothing that is added later changes what lies below them. -/
theorem records_pushNode
    {parent : NodeId}
    {state : State}
    (inside : parent < state.builder.nodes.size)
    (reachable : state.builder.IsReachable) :
    (node : DumpNode) →
    Records
      (standing ((pushNode parent node).run state).2.builder.unindexed state.builder.nodes.size
        node)
      state ((pushNode parent node).run state).2
  | .node entry inner => by
      obtain ⟨entered, isRun, -, areIds, areReferences, grows⟩ :=
        run_pushEntry entry inner inside reachable
      have enteredReachable := grows.grows.reachable reachable
      obtain ⟨added, growsInside, records⟩ :=
        records_pushNodes grows.isNew enteredReachable inner
      have recordsEntry :
          Records [(state.builder.nodes.size, .node entry inner)] state entered := by
        refine ⟨grows.grows.size_le, ?_, List.pairwise_singleton .., ?_,
          fun identity nonempty => ?_⟩
        · simpa using grows.isNew
        · rw [areReferences]
          cases waits : openReference? entry.nodeKind entry inner state.builder.nodes.size <;>
            simp [waiting?, DumpNode.entry, DumpNode.inner, waits]
        · rw [areIds]
          exact get?_identify state.ids (.node entry inner) state.builder.nodes.size nonempty
      rw [pushNode, run_bind, isRun, standing,
        growsInside.printedChildren_eq grows enteredReachable.isOrderly]
      exact recordsEntry.append records

theorem records_pushNodes
    {parent : NodeId}
    {state : State}
    (inside : parent < state.builder.nodes.size)
    (reachable : state.builder.IsReachable) :
    (printed : List DumpNode) →
    ∃ added,
      GrowsBy parent printed added state ((pushNodes parent printed).run state).2 ∧
        Records
          (standingAll ((pushNodes parent printed).run state).2.builder.unindexed added printed)
          state ((pushNodes parent printed).run state).2
  | [] => ⟨[], ⟨.refl _ _, rfl, by simp, by rw [MirrorAll]; trivial⟩, by
      rw [standingAll]
      · exact .refl state
      · exact nofun⟩
  | node :: rest => by
      have grows := growsBy_pushNode inside reachable node
      have records := records_pushNode inside reachable node
      have isBefore := (grows.isNew _ (List.mem_singleton_self _)).2
      obtain ⟨added, growsMore, recordsMore⟩ :=
        records_pushNodes (Nat.lt_of_lt_of_le inside grows.grows.size_le)
          (grows.grows.reachable reachable) rest
      have agree := agreeOn_of_grows growsMore.grows (grows.grows.reachable reachable).isOrderly
      have below : ∀ outer, some parent = some outer → outer < state.builder.nodes.size := by
        rintro _ ⟨⟩
        exact inside
      rw [pushNodes, run_bind]
      refine ⟨_, grows.cons growsMore inside reachable, ?_⟩
      rw [standingAll, standing_of_agreeOn agree ⟨isBefore, below⟩ node]
      exact records.append recordsMore

end

/-! ## Linking -/

theorem referenced?_setReferenced
    {builder : UnitBuilder}
    {id : NodeId}
    (inside : id < builder.nodes.size)
    (target other : NodeId) :
    (builder.setReferenced id target).unindexed.referenced? other =
      if other = id then some target else builder.unindexed.referenced? other := by
  simp only [referenced?, node, setReferenced, unindexed, Array.getElem?_modify]
  by_cases same : other = id
  · simp [same, Array.getElem?_eq_getElem inside]
  · simp [same, Ne.symm same]

theorem referenced?_push_detached
    {builder : UnitBuilder}
    {id : NodeId}
    (inside : id < builder.nodes.size)
    (spec : NodeSpec) :
    (builder.push none spec).unindexed.referenced? id = builder.unindexed.referenced? id := by
  simp [referenced?, node, UnitBuilder.push, unindexed, Array.getElem?_push_lt inside,
    Array.getElem?_eq_getElem inside]

/-- A node without a place in the tree, of which nothing is known but what a specification says. -/
structure IsAdded
    (unit : TranslationUnit)
    (target : NodeId)
    (spec : NodeSpec) :
    Prop where
  parent_eq : (unit.node target).parent = none
  children_eq : unit.children target = []
  kind_eq : unit.kind target = spec.kind
  spelling_eq : unit.spelling target = spec.spelling
  type_eq : unit.typeSpelling? target = spec.type

theorem isAdded_push
    (builder : UnitBuilder)
    (spec : NodeSpec) :
    IsAdded (builder.push none spec).unindexed builder.nodes.size spec := by
  have added : (builder.push none spec).unindexed.node builder.nodes.size = nodeOf none spec :=
    node_push (by simp) spec
  exact ⟨congrArg Node.parent added, congrArg Node.children added,
    congrArg (fun node => node.kind) added, congrArg (fun node => node.spelling) added,
    congrArg (fun node => node.type) added⟩

/-- What is added detached later, or referred to, leaves an added node alone. -/
theorem IsAdded.of_grows
    {first last : UnitBuilder}
    {added : List NodeId}
    {target : NodeId}
    {spec : NodeSpec}
    (isAdded : IsAdded first.unindexed target spec)
    (grows : Grows none added first last)
    (inside : target < first.nodes.size) :
    IsAdded last.unindexed target spec := by
  obtain ⟨parent_eq, children_eq, kind_eq, spelling_eq, type_eq⟩ := isAdded
  have sameSpec := grows.spec_eq inside
  obtain ⟨referenced, isKept⟩ := grows.kept target inside
  refine ⟨?_, ?_, ?_, ?_, ?_⟩
  · rw [isKept, parent_eq]
  · rw [grows.children_eq inside, children_eq]
    simp
  · rw [kind, sameSpec, ← kind, kind_eq]
  · rw [TranslationUnit.spelling, sameSpec, ← TranslationUnit.spelling, spelling_eq]
  · rw [typeSpelling?, sameSpec, ← typeSpelling?, type_eq]

/-- Finishing a builder only indexes its declarations. -/
theorem IsAdded.finish
    {builder : UnitBuilder}
    {target : NodeId}
    {spec : NodeSpec}
    (isAdded : IsAdded builder.unindexed target spec) :
    IsAdded builder.finish target spec :=
  ⟨isAdded.parent_eq, isAdded.children_eq, isAdded.kind_eq, isAdded.spelling_eq, isAdded.type_eq⟩

/-- A conversion after references were linked: each leads to what the table of identities says, and
for an identity without a node one was added as the first reference to it says. -/
structure Linked
    (references : List OpenReference)
    (before after : State) :
    Prop where
  grows : ∃ added, Grows none added before.builder after.builder
  keeps :
    ∀ {identity target},
      before.ids.get? identity = some target → after.ids.get? identity = some target
  refers :
    ∀ reference ∈ references, ∃ target,
      after.ids.get? reference.target = some target ∧
        after.builder.unindexed.referenced? reference.node = some target
  untouched :
    ∀ id < before.builder.nodes.size, id ∉ references.map OpenReference.node →
      after.builder.unindexed.referenced? id = before.builder.unindexed.referenced? id
  adds :
    ∀ {identity target},
      before.ids.get? identity = none → after.ids.get? identity = some target →
        before.builder.nodes.size ≤ target ∧ target < after.builder.nodes.size ∧
          ∃ reference,
            references.find? (·.target == identity) = some reference ∧
              IsAdded after.builder.unindexed target reference.fallback

theorem Linked.refl
    (state : State) :
    Linked [] state state :=
  ⟨⟨[], .refl _ _⟩, fun found => found, by simp, fun _ _ _ => rfl, fun absent present => by
    rw [absent] at present
    cases present⟩

section OneReference

variable {reference : OpenReference} {state : State}

/-- A reference to an identity that has a node leads to that node. -/
theorem linked_link_of_known
    (inside : reference.node < state.builder.nodes.size)
    {target : NodeId}
    (known : state.ids.get? reference.target = some target) :
    Linked [reference] state ((link reference).run state).2 := by
  have isGrown := grows_link reference state
  have isRun :
      ((link reference).run state).2 =
        { state with builder := state.builder.setReferenced reference.node target } := by
    simp only [link, run_bind, run_get, known]
    rfl
  rw [isRun] at isGrown ⊢
  refine ⟨isGrown, fun found => found, ?_, fun id isOld isOther => ?_, fun absent present => ?_⟩
  · simp [referenced?_setReferenced inside, known]
  · simp only [List.map_singleton, List.mem_singleton] at isOther
    rw [referenced?_setReferenced inside, if_neg isOther]
  · rw [absent] at present
    cases present

/-- For an identity without a node, the first reference to it adds one. -/
theorem linked_link_of_unknown
    (inside : reference.node < state.builder.nodes.size)
    (unknown : state.ids.get? reference.target = none) :
    Linked [reference] state ((link reference).run state).2 := by
  have isGrown := grows_link reference state
  have isRun :
      ((link reference).run state).2 =
        { state with
          ids := state.ids.insert reference.target state.builder.nodes.size
          builder :=
            (state.builder.push none reference.fallback).setReferenced reference.node
              state.builder.nodes.size } := by
    simp only [link, run_bind, run_get, unknown]
    rfl
  have insidePushed :
      reference.node < (state.builder.push none reference.fallback).nodes.size := by
    rw [size_push]
    exact Nat.lt_succ_of_lt inside
  rw [isRun] at isGrown ⊢
  refine ⟨isGrown, fun {identity target} found => ?_, ?_, fun id isOld isOther => ?_,
    fun {identity target} absent present => ?_⟩
  · rw [Keyed.get?_insert, if_neg, found]
    rintro rfl
    rw [unknown] at found
    cases found
  · simp [referenced?_setReferenced insidePushed, Keyed.get?_insert]
  · simp only [List.map_singleton, List.mem_singleton] at isOther
    rw [referenced?_setReferenced insidePushed, if_neg isOther, referenced?_push_detached isOld]
  · rw [Keyed.get?_insert] at present
    split at present
    · rename_i isTarget
      obtain rfl := Option.some.inj present
      refine ⟨Nat.le_refl _, by simp, reference, by simp [isTarget], ?_⟩
      exact (isAdded_push state.builder reference.fallback).of_grows
        (grows_setReferenced _ none reference.node state.builder.nodes.size) (by simp)
    · rw [absent] at present
      cases present

/-- Only an identity without a node gets one, and only one node changes what it refers to. -/
theorem linked_link
    (inside : reference.node < state.builder.nodes.size) :
    Linked [reference] state ((link reference).run state).2 := by
  cases known : state.ids.get? reference.target with
  | some target => exact linked_link_of_known inside known
  | none => exact linked_link_of_unknown inside known

end OneReference

/-- References that are linked later find the nodes that were added for earlier ones. -/
theorem Linked.append
    {references others : List OpenReference}
    {first middle last : State}
    (linked : Linked references first middle)
    (linkedMore : Linked others middle last)
    (apart : ∀ reference ∈ references, reference.node ∉ others.map OpenReference.node)
    (inside : ∀ reference ∈ references, reference.node < first.builder.nodes.size) :
    Linked (references ++ others) first last := by
  obtain ⟨added, grows⟩ := linked.grows
  obtain ⟨addedMore, growsMore⟩ := linkedMore.grows
  refine ⟨⟨_, grows.trans growsMore⟩, fun found => linkedMore.keeps (linked.keeps found),
    ?_, ?_, ?_⟩
  · intro reference member
    rcases List.mem_append.mp member with earlier | later
    · obtain ⟨target, isTarget, refersTo⟩ := linked.refers reference earlier
      refine ⟨target, linkedMore.keeps isTarget, ?_⟩
      rw [linkedMore.untouched reference.node
        (Nat.lt_of_lt_of_le (inside reference earlier) grows.size_le) (apart reference earlier),
        refersTo]
    · exact linkedMore.refers reference later
  · intro id isOld notReferring
    rw [List.map_append, List.mem_append, not_or] at notReferring
    rw [linkedMore.untouched id (Nat.lt_of_lt_of_le isOld grows.size_le) notReferring.2,
      linked.untouched id isOld notReferring.1]
  · intro identity target absent present
    cases between : middle.ids.get? identity with
    | some earlierTarget =>
        obtain rfl := Option.some.inj ((linkedMore.keeps between).symm.trans present)
        obtain ⟨isNew, isInside, reference, isFirst, isAdded⟩ := linked.adds absent between
        exact ⟨isNew, Nat.lt_of_lt_of_le isInside growsMore.size_le, reference,
          by rw [List.find?_append, isFirst, Option.some_or], isAdded.of_grows growsMore isInside⟩
    | none =>
        obtain ⟨isNew, isInside, reference, isFirst, isAdded⟩ := linkedMore.adds between present
        -- Each of the earlier references has a node in the middle.
        have noneEarlier : references.find? (·.target == identity) = none := by
          rw [List.find?_eq_none]
          intro earlier member isIdentity
          obtain ⟨earlierTarget, isTarget, -⟩ := linked.refers earlier member
          rw [beq_iff_eq.mp isIdentity, between] at isTarget
          cases isTarget
        exact ⟨Nat.le_trans grows.size_le isNew, isInside, reference,
          by rw [List.find?_append, noneEarlier, Option.none_or, isFirst], isAdded⟩

theorem linked_linkAll
    {references : List OpenReference}
    {state : State}
    (distinct : (references.map OpenReference.node).Nodup)
    (inside : ∀ reference ∈ references, reference.node < state.builder.nodes.size) :
    Linked references state ((linkAll references).run state).2 := by
  induction references generalizing state with
  | nil => exact .refl state
  | cons reference rest inductionHypothesis =>
      obtain ⟨isInside, areInside⟩ := List.forall_mem_cons.mp inside
      obtain ⟨isApart, distinctRest⟩ := List.nodup_cons.mp distinct
      have linked := linked_link isInside
      obtain ⟨added, grows⟩ := linked.grows
      have linkedRest := inductionHypothesis distinctRest fun other member =>
        Nat.lt_of_lt_of_le (areInside other member) grows.size_le
      rw [linkAll, run_bind]
      exact linked.append linkedRest (List.forall_mem_singleton.mpr isApart)
        (List.forall_mem_singleton.mpr isInside)

/-! ## The references that wait -/

section Waiting

variable
  {pairs : List (NodeId × DumpNode)}

/-- Every printed node waits for one declaration at most. -/
theorem nodup_waiting
    (increasing : (pairs.map Prod.fst).Pairwise (· < ·)) :
    ((pairs.filterMap waiting?).map OpenReference.node).Nodup := by
  rw [List.Nodup, List.pairwise_map, List.pairwise_filterMap]
  refine (List.pairwise_map.mp increasing).imp ?_
  intro first second lt reference waits other waitsToo
  rw [(waiting?_eq_some_iff.mp waits).1, (waiting?_eq_some_iff.mp waitsToo).1]
  exact Nat.ne_of_lt lt

theorem mem_waiting
    {pair : NodeId × DumpNode}
    (member : pair ∈ pairs)
    {identity : String}
    {spec : NodeSpec}
    (names : Names pair.2 identity spec) :
    { node := pair.1, target := identity, fallback := spec } ∈ pairs.filterMap waiting? :=
  List.mem_filterMap.mpr ⟨pair, member, waiting?_eq_some_iff.mpr ⟨rfl, names⟩⟩

/-- The first reference to a declaration that is linked is the first that was printed. -/
theorem find?_waiting
    {before after : List (NodeId × DumpNode)}
    {first : NodeId × DumpNode}
    {identity : String}
    (unnamed : ∀ pair ∈ before, ∀ spec, ¬ Names pair.2 identity spec)
    {spec : NodeSpec}
    (names : Names first.2 identity spec) :
    ((before ++ first :: after).filterMap waiting?).find? (·.target == identity) =
      some { node := first.1, target := identity, fallback := spec } := by
  have noneBefore : (before.filterMap waiting?).find? (·.target == identity) = none := by
    rw [List.find?_eq_none]
    intro reference member isIdentity
    obtain ⟨pair, inBefore, waits⟩ := List.mem_filterMap.mp member
    have named := (waiting?_eq_some_iff.mp waits).2
    rw [beq_iff_eq.mp isIdentity] at named
    exact unnamed pair inBefore _ named
  have waits :
      waiting? first = some { node := first.1, target := identity, fallback := spec } :=
    waiting?_eq_some_iff.mpr ⟨rfl, names⟩
  rw [List.filterMap_append, List.find?_append, noneBefore, Option.none_or,
    List.filterMap_cons_some waits]
  simp

end Waiting

/-- How the references of a dump are linked. -/
structure LinksReferences
    (printed : DumpNode)
    (unlinked unit : TranslationUnit)
    (nodes : List (NodeId × DumpNode)) :
    Prop where
  /-- A node stands for everything that is printed below the root. -/
  stands : nodes.map Prod.snd = inPrintOrderAll printed.inner
  /-- Nodes are added in the order of printing, and before references are linked. -/
  increasing : (nodes.map Prod.fst).Pairwise (· < ·)
  inside : ∀ pair ∈ nodes, pair.1 < unlinked.nodes.size
  /-- References to what is printed lead to the first node with that identity. -/
  refers_to_printed :
    ∀ identity ≠ "", ∀ first,
      nodes.find? (carries identity) = some first →
        ∀ pair ∈ nodes, ∀ spec, Names pair.2 identity spec →
          unit.referenced? pair.1 = some first.1
  /-- References to what is never printed lead to one further node, which is as the first of them
  says. -/
  refers_to_added :
    ∀ identity ≠ "", (∀ pair ∈ nodes, pair.2.entry.id ≠ identity) →
      ∀ before first after spec,
        nodes = before ++ first :: after →
        (∀ pair ∈ before, ∀ other, ¬ Names pair.2 identity other) →
        Names first.2 identity spec →
          ∃ target,
            unlinked.nodes.size ≤ target ∧ IsAdded unit target spec ∧
              ∀ pair ∈ nodes, ∀ other, Names pair.2 identity other →
                unit.referenced? pair.1 = some target
  /-- Linking changes nothing but what nodes refer to. -/
  kept :
    ∀ id < unlinked.nodes.size, ∃ referenced, unit.node id = { unlinked.node id with referenced }

theorem Linked.linksReferences
    {printed : DumpNode}
    {pairs : List (NodeId × DumpNode)}
    (stands : pairs.map Prod.snd = inPrintOrderAll printed.inner)
    {start pushed last : State}
    (noIds : start.ids = {})
    (records : Records pairs start pushed)
    (linked : Linked (pairs.filterMap waiting?) pushed last) :
    LinksReferences printed pushed.builder.finish last.builder.finish pairs := by
  have areIds (identity : String) (nonempty : identity ≠ "") :
      pushed.ids.get? identity = (pairs.find? (carries identity)).map Prod.fst := by
    rw [records.ids_eq identity nonempty, noIds]
    rfl
  have refersTo {identity : String} {target : NodeId}
      (found : last.ids.get? identity = some target)
      {pair : NodeId × DumpNode} (member : pair ∈ pairs) {spec : NodeSpec}
      (names : Names pair.2 identity spec) :
      last.builder.finish.referenced? pair.1 = some target := by
    obtain ⟨other, foundOther, refersToOther⟩ := linked.refers _ (mem_waiting member names)
    exact refersToOther.trans (foundOther.symm.trans found)
  refine ⟨stands, records.increasing, fun pair member => (records.inside pair member).2, ?_, ?_, ?_⟩
  · intro identity nonempty first isFirst pair member spec names
    have found : pushed.ids.get? identity = some first.1 := by
      rw [areIds identity nonempty, isFirst]
      rfl
    exact refersTo (linked.keeps found) member names
  · intro identity nonempty notPrinted before first after spec whole unnamed names
    have isWaiting : first ∈ pairs := by simp [whole]
    obtain ⟨target, found, -⟩ := linked.refers _ (mem_waiting isWaiting names)
    have absent : pushed.ids.get? identity = none := by
      have noneCarries : pairs.find? (carries identity) = none :=
        List.find?_eq_none.mpr fun pair member => by simpa [carries] using notPrinted pair member
      rw [areIds identity nonempty, noneCarries]
      rfl
    obtain ⟨isNew, -, reference, isFirst, isAdded⟩ := linked.adds absent found
    rw [whole, find?_waiting unnamed names] at isFirst
    obtain rfl := Option.some.inj isFirst
    exact ⟨target, isNew, isAdded.finish, fun pair member other => refersTo found member⟩
  · intro id isOld
    obtain ⟨added, grows⟩ := linked.grows
    obtain ⟨referenced, isKept⟩ := grows.kept id isOld
    rw [if_neg nofun, List.append_nil] at isKept
    exact ⟨referenced, isKept⟩

/-! ## Small dumps -/

/-- The record of a node of which little more is printed than what it refers to. -/
def sparseEntry
    (id kind : String)
    (referenced : Option PrintedReference)
    (referencedMember : Option String) :
    DumpEntry :=
  { id, kind, referenced, referencedMember
    tag := none
    name := none
    location := {}
    rangeStart := {}
    rangeEnd := {}
    type := none
    value := none
    operator := none
    storageClass := none
    bases := []
    constructorType := none }

/-- A reference to a declaration of which nothing but its identity and kind is printed. -/
def sparseReference
    (id : String)
    (kind : NodeKind) :
    PrintedReference :=
  { id, kind, name := none, type := none }

/-- A variable that is referred to before it is printed, and a member that is never printed but
referred to twice. -/
def forwardDump : DumpNode :=
  let reference (id target : String) (kind : NodeKind) : DumpNode :=
    .node (sparseEntry id "DeclRefExpr" (some (sparseReference target kind)) none) []
  .node (sparseEntry "0x1" DumpEntry.rootKind none none)
    [reference "0x2" "0x4" .variableDeclaration,
      .node (sparseEntry "0x3" "MemberExpr" none (some "0x9")) [],
      .node (sparseEntry "0x4" "VarDecl" none none) [],
      reference "0x5" "0x9" .method,
      .node (sparseEntry "0x4" "VarDecl" none none) []]

/-- A reference that names the identity of the root. -/
def rootReferenceDump : DumpNode :=
  .node (sparseEntry "0x1" DumpEntry.rootKind none none)
    [.node (sparseEntry "0x2" "DeclRefExpr" (some (sparseReference "0x1" .other)) none) []]

end DumpConversion

namespace TranslationUnit

open DumpConversion

/--
The references of a dump are linked right: what a node names becomes the first node that was printed
below the root with that identity, or else one detached node that is as the first reference says.
-/
theorem ofDump_links_references
    (path : String)
    (printed : DumpNode) :
    LinksReferences printed (unlinked path printed).builder.finish (ofDump path printed)
      (standingAll (ofDump path printed) ((ofDump path printed).children root) printed.inner) := by
  have started : (UnitBuilder.start path).IsReachable := .start path
  let start : State :=
    ({ builder := UnitBuilder.start path } : State).recall (Memory.afterEntry {} printed.entry)
  have rootIsOld : root < start.builder.nodes.size := Nat.one_pos
  obtain ⟨added, grows, records⟩ := records_pushNodes rootIsOld started printed.inner
  let pushed := unlinked path printed
  let pairs := standingAll pushed.builder.unindexed added printed.inner
  have waiting : pushed.references.reverse = pairs.filterMap waiting? := by
    have remembered : pushed.references = (pairs.filterMap waiting?).reverse ++ [] :=
      records.references_eq
    rw [remembered, List.append_nil, List.reverse_reverse]
  have linked :
      Linked (pairs.filterMap waiting?) pushed
        ((linkAll (pairs.filterMap waiting?)).run pushed).2 := by
    refine linked_linkAll (nodup_waiting records.increasing) fun reference member => ?_
    obtain ⟨pair, inPairs, waits⟩ := List.mem_filterMap.mp member
    rw [(waiting?_eq_some_iff.mp waits).1]
    exact (records.inside pair inPairs).2
  have isUnit :
      ofDump path printed =
        ((linkAll (pairs.filterMap waiting?)).run pushed).2.builder.finish := by
    rw [ofDump_eq, waiting]
  obtain ⟨-, -, mirror⟩ := mirrorAll_ofDump path printed
  have stands := map_standingAll printed.inner mirror
  obtain ⟨others, growsMore⟩ := linked.grows
  have areChildren : (ofDump path printed).children root = added := by
    rw [isUnit]
    exact (grows.grows.trans_detached growsMore).children_eq rootIsOld
  have sameNodes :
      standingAll (ofDump path printed) ((ofDump path printed).children root) printed.inner =
        pairs := by
    have agree :
        AgreeOn
          (fun id => id < pushed.builder.nodes.size ∧ ∀ outer, none = some outer → outer < id)
          pushed.builder.unindexed (ofDump path printed) := by
      rw [isUnit]
      exact agreeOn_of_grows growsMore (grows.grows.reachable started).isOrderly
    rw [areChildren]
    exact standingAll_of_agreeOn agree (fun id member => ⟨(grows.isNew id member).2, nofun⟩)
      printed.inner
  rw [sameNodes] at stands ⊢
  rw [isUnit]
  exact linked.linksReferences stands rfl records

example :
    let unit := ofDump "forward.cpp" forwardDump
    [1, 2, 4].map unit.referenced? = [some 3, some 6, some 6] ∧ unit.kind 6 = .field := by
  decide +kernel

/-- With the root among the printed nodes, references need not lead to the first of them that has
the identity they name: the root has no identity. -/
theorem ofDump_links_root_reference_outside :
    let unit := ofDump "root.cpp" rootReferenceDump
    let nodes :=
      (root, rootReferenceDump) ::
        standingAll unit (unit.children root) rootReferenceDump.inner
    nodes.find? (carries "0x1") = some (root, rootReferenceDump) ∧
      ∃ pair ∈ nodes, ∃ spec,
        Names pair.2 "0x1" spec ∧ unit.referenced? pair.1 ≠ some root := by
  intro unit nodes
  let reference := sparseReference "0x1" .other
  let entry := sparseEntry "0x2" "DeclRefExpr" (some reference) none
  have isReference : entry.nodeKind = .declarationReference := by decide +kernel
  have names : Names (.node entry []) "0x1" (declarationSpec reference) :=
    .declaration isReference rfl
  have stands : nodes = [(root, rootReferenceDump), (1, .node entry [])] := rfl
  have leads : unit.referenced? 1 = some 2 := by decide +kernel
  have inside : (1, .node entry []) ∈ nodes := by
    rw [stands]
    exact .tail _ (.head _)
  refine ⟨rfl, (1, .node entry []), inside, declarationSpec reference, names, ?_⟩
  rw [leads]
  decide

end TranslationUnit

end BindingStubs
