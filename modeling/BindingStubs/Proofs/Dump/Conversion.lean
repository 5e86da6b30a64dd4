import BindingStubs.Dump.Conversion
import BindingStubs.Proofs.Tree.Orderly

namespace BindingStubs

/-!
# The unit that a dump is converted to

A conversion only ever adds nodes, below the node that it is at or detached, so what it has added
stays as it is up to references.  The unit in the end mirrors the dump: below the root there is one
node for every printed one, in the order of printing, and its location is what the positions up to
it say.
-/

/-! ## Growing units -/

namespace UnitBuilder

/-- How a builder changes while nodes are added: a node that it already had keeps everything but
its reference, and only one of them, the parent, gets further children. -/
structure Grows
    (parent : Option NodeId)
    (added : List NodeId)
    (before after : UnitBuilder) :
    Prop where
  reachable : before.IsReachable → after.IsReachable
  size_le : before.nodes.size ≤ after.nodes.size
  kept : ∀ id < before.nodes.size, ∃ referenced,
    after.unindexed.node id =
      { before.unindexed.node id with
        children :=
          before.unindexed.children id ++ if parent = some id then added else []
        referenced }

namespace Grows

variable
  {parent other : Option NodeId}
  {added others : List NodeId}
  {first middle last : UnitBuilder}

theorem refl
    (parent : Option NodeId)
    (builder : UnitBuilder) :
    Grows parent [] builder builder :=
  ⟨fun reachable => reachable, Nat.le_refl _, fun id _ =>
    ⟨(builder.unindexed.node id).referenced, by simp [TranslationUnit.children]⟩⟩

theorem trans
    (grows : Grows parent added first middle)
    (growsMore : Grows parent others middle last) :
    Grows parent (added ++ others) first last := by
  refine ⟨growsMore.reachable ∘ grows.reachable, Nat.le_trans grows.size_le growsMore.size_le,
    fun id isOld => ?_⟩
  obtain ⟨_, isKept⟩ := grows.kept id isOld
  obtain ⟨referenced, isKeptAgain⟩ := growsMore.kept id (Nat.lt_of_lt_of_le isOld grows.size_le)
  refine ⟨referenced, ?_⟩
  rw [isKeptAgain, TranslationUnit.children, isKept]
  split <;> simp

/-- What is added below nodes that were added before, or detached, is not seen from outside. -/
theorem trans_inside
    (grows : Grows parent added first middle)
    (growsInside : Grows other others middle last)
    (inside : ∀ id, other = some id → first.nodes.size ≤ id) :
    Grows parent added first last := by
  refine ⟨growsInside.reachable ∘ grows.reachable, Nat.le_trans grows.size_le growsInside.size_le,
    fun id isOld => ?_⟩
  obtain ⟨_, isKept⟩ := grows.kept id isOld
  obtain ⟨referenced, isKeptAgain⟩ := growsInside.kept id (Nat.lt_of_lt_of_le isOld grows.size_le)
  have notInside : other ≠ some id := fun isInside =>
    absurd (inside id isInside) (Nat.not_le.mpr isOld)
  refine ⟨referenced, ?_⟩
  rw [isKeptAgain, TranslationUnit.children, isKept, if_neg notInside, List.append_nil]

theorem trans_below
    (grows : Grows parent added first middle)
    (growsBelow : Grows (some first.nodes.size) others middle last) :
    Grows parent added first last := by
  refine grows.trans_inside growsBelow ?_
  rintro _ ⟨⟩
  exact Nat.le_refl _

theorem trans_detached
    (grows : Grows parent added first middle)
    (growsDetached : Grows none others middle last) :
    Grows parent added first last :=
  grows.trans_inside growsDetached nofun

variable {id : NodeId}

theorem spec_eq
    (grows : Grows parent added first last)
    (isOld : id < first.nodes.size) :
    (last.unindexed.node id).toNodeSpec = (first.unindexed.node id).toNodeSpec := by
  obtain ⟨_, isKept⟩ := grows.kept id isOld
  rw [isKept]

theorem children_eq
    (grows : Grows parent added first last)
    (isOld : id < first.nodes.size) :
    last.unindexed.children id =
      first.unindexed.children id ++ if parent = some id then added else [] := by
  obtain ⟨_, isKept⟩ := grows.kept id isOld
  rw [TranslationUnit.children, isKept]

end Grows

/-- A node that is added has the children that come later. -/
theorem node_push
    {builder : UnitBuilder}
    {parent : Option NodeId}
    (inside : ∀ id, parent = some id → id < builder.nodes.size)
    (spec : NodeSpec) :
    (builder.push parent spec).unindexed.node builder.nodes.size = nodeOf parent spec := by
  cases parent with
  | none => simp [push, unindexed, TranslationUnit.node]
  | some parent =>
      have notNew : parent ≠ builder.nodes.size := Nat.ne_of_lt (inside parent rfl)
      simp only [push, unindexed, TranslationUnit.node, Array.getElem?_modify, notNew, if_false,
        Array.getElem?_push_size, Option.getD_some]

theorem grows_push
    {builder : UnitBuilder}
    {parent : Option NodeId}
    (inside : ∀ id, parent = some id → id < builder.nodes.size)
    (spec : NodeSpec) :
    Grows parent [builder.nodes.size] builder (builder.push parent spec) := by
  refine ⟨fun reachable => .push parent spec reachable inside, by simp, fun id isOld => ?_⟩
  refine ⟨(builder.unindexed.node id).referenced, ?_⟩
  cases parent with
  | none =>
      simp [push, unindexed, TranslationUnit.node, TranslationUnit.children,
        Array.getElem?_push_lt isOld, Array.getElem?_eq_getElem isOld]
  | some parent =>
      simp only [push, unindexed, TranslationUnit.node, TranslationUnit.children,
        Array.getElem?_modify, Array.getElem?_push_lt isOld, Array.getElem?_eq_getElem isOld,
        Option.some.injEq]
      split <;> simp

theorem grows_setReferenced
    (builder : UnitBuilder)
    (parent : Option NodeId)
    (id target : NodeId) :
    Grows parent [] builder (builder.setReferenced id target) := by
  refine ⟨.setReferenced id target, by simp, fun other isOld => ?_⟩
  simp only [setReferenced, unindexed, TranslationUnit.node, TranslationUnit.children,
    Array.getElem?_modify, Array.getElem?_eq_getElem isOld, ite_self, List.append_nil]
  split
  · exact ⟨some target, rfl⟩
  · exact ⟨_, rfl⟩

/-- Add nodes of one kind that have nothing but a type. -/
def pushTypes
    (builder : UnitBuilder)
    (parent : NodeId)
    (kind : NodeKind)
    (types : List (Option String)) :
    UnitBuilder :=
  types.foldl (fun builder type => builder.push (some parent) { kind, type }) builder

theorem grows_pushTypes
    {builder : UnitBuilder}
    {parent : NodeId}
    (inside : parent < builder.nodes.size)
    (kind : NodeKind)
    (types : List (Option String)) :
    ∃ added,
      Grows (some parent) added builder (builder.pushTypes parent kind types) ∧
        ∀ id ∈ added, (builder.pushTypes parent kind types).unindexed.kind id = kind := by
  induction types generalizing builder with
  | nil => exact ⟨[], .refl _ _, by simp⟩
  | cons type rest inductionHypothesis =>
      have isInside : ∀ id, some parent = some id → id < builder.nodes.size := by
        rintro _ ⟨⟩
        exact inside
      have grows := grows_push isInside { kind, type }
      have isNew : builder.nodes.size < (builder.push (some parent) { kind, type }).nodes.size := by
        simp
      obtain ⟨added, growsMore, kinds⟩ := inductionHypothesis (Nat.lt_trans inside isNew)
      refine ⟨builder.nodes.size :: added, grows.trans growsMore, ?_⟩
      rintro id (_ | ⟨_, member⟩)
      · rw [TranslationUnit.kind, show builder.pushTypes parent kind (type :: rest) =
          (builder.push (some parent) { kind, type }).pushTypes parent kind rest from rfl,
          growsMore.spec_eq isNew, node_push isInside]
        rfl
      · exact kinds id member

end UnitBuilder

namespace DumpConversion

open TranslationUnit UnitBuilder

/-! ## The memory of positions -/

/-- The file and line that the next position is read against. -/
structure Memory where
  file : String := ""
  line : Nat := 0
  deriving Repr, DecidableEq

namespace Memory

/-- Take over the file and line of a printed position. -/
def advance
    (memory : Memory)
    (position : PrintedPosition) :
    Memory :=
  { file := position.file.getD memory.file
    line := position.line.getD memory.line }

/-- The memory after the positions of a location. -/
def after
    (memory : Memory)
    (location : PrintedLocation) :
    Memory :=
  location.positions.foldl advance memory

/-- What a printed location says. -/
def read?
    (memory : Memory)
    (location : PrintedLocation) :
    Option Location :=
  match location.positions.getLast? with
  | some position =>
      if location.isSite then
        position.column.map fun column =>
          { file := (memory.after location).file, line := (memory.after location).line, column }
      else none
  | none => none

/-- The location of a node. -/
def locate
    (memory : Memory)
    (entry : DumpEntry) :
    Location :=
  (memory.read? entry.location <|>
    (memory.after entry.location).read? entry.rangeStart).getD Location.unknown

/-- The memory after the locations of a node, before those of the nodes inside it. -/
def afterEntry
    (memory : Memory)
    (entry : DumpEntry) :
    Memory :=
  ((memory.after entry.location).after entry.rangeStart).after entry.rangeEnd

mutual

/-- The memory after a node with the nodes inside it. -/
def afterNode
    (memory : Memory) :
    DumpNode → Memory
  | .node entry inner => afterNodes (memory.afterEntry entry) inner

/-- The memory after nodes in order. -/
def afterNodes
    (memory : Memory) :
    List DumpNode → Memory
  | [] => memory
  | node :: rest => afterNodes (memory.afterNode node) rest

end

end Memory

/-- The memory of a conversion. -/
def State.memory
    (state : State) :
    Memory :=
  { file := state.file, line := state.line }

/-- A conversion with another memory. -/
def State.recall
    (state : State)
    (memory : Memory) :
    State :=
  { state with file := memory.file, line := memory.line }

theorem foldl_advance
    (positions : List PrintedPosition)
    (state : State) :
    positions.foldl advance state =
      state.recall (positions.foldl Memory.advance state.memory) := by
  induction positions generalizing state with
  | nil => rfl
  | cons position rest inductionHypothesis => exact inductionHypothesis (advance state position)

/-! ## The steps of a conversion -/

theorem run_bind
    {First Second : Type}
    (step : Converting First)
    (next : First → Converting Second)
    (state : State) :
    (step >>= next).run state = (next (step.run state).1).run (step.run state).2 :=
  rfl

theorem run_get
    (state : State) :
    (get : Converting State).run state = (state, state) :=
  rfl

theorem run_locate
    (location : PrintedLocation)
    (state : State) :
    (locate location).run state =
      (state.memory.read? location, state.recall (state.memory.after location)) := by
  have moved :
      location.positions.foldl advance state = state.recall (state.memory.after location) :=
    foldl_advance location.positions state
  rw [Memory.read?, locate, run_bind]
  simp only [StateT.run_modify, moved]
  cases location.positions.getLast? with
  | none => rfl
  | some position => cases location.isSite <;> rfl

theorem run_locateEntry
    (entry : DumpEntry)
    (state : State) :
    (locateEntry entry).run state =
      (state.memory.locate entry, state.recall (state.memory.afterEntry entry)) := by
  simp only [locateEntry, run_bind, run_locate]
  rfl

theorem run_pushTypes
    (parent : NodeId)
    (kind : NodeKind)
    (types : List (Option String))
    (state : State) :
    (pushTypes parent kind types).run state =
      ((), { state with builder := state.builder.pushTypes parent kind types }) := by
  induction types generalizing state with
  | nil => rfl
  | cons type rest inductionHypothesis =>
      rw [pushTypes, run_bind, inductionHypothesis]
      rfl

/-- A constructor is added detached from what is there. -/
theorem run_pushConstructor
    (entry : DumpEntry)
    (state : State) :
    ∃ builder,
      (pushConstructor entry).run state = (state.builder.nextId, { state with builder }) ∧
        ∃ added, Grows none added state.builder builder := by
  let declaration : NodeSpec :=
    { kind := .constructor
      spelling := (spellingOf? entry.type).getD ""
      type := spellingOf? entry.constructorType }
  let declared := state.builder.push none declaration
  have grows : Grows none [state.builder.nodes.size] state.builder declared :=
    grows_push (by simp) declaration
  have isNew : state.builder.nodes.size < declared.nodes.size := by
    simp [declared]
  have growsWith (types : List (Option String)) :
      ∃ added, Grows none added state.builder
        (declared.pushTypes state.builder.nodes.size .parameter types) := by
    obtain ⟨_, growsInside, _⟩ := grows_pushTypes isNew .parameter types
    exact ⟨_, grows.trans_below growsInside⟩
  simp only [pushConstructor, run_bind, run_pushTypes]
  exact ⟨_, rfl, growsWith _⟩

/-- The nodes by their printed identity with a further node.  The first one with an identity keeps
it. -/
def identify
    (ids : Keyed NodeId)
    (entry : DumpEntry)
    (id : NodeId) :
    Keyed NodeId :=
  if entry.id.isEmpty || ids.contains entry.id then ids else ids.insert entry.id id

/-- What is known of the node for an entry, apart from the type that a callable returns. -/
def entrySpec
    (location : Location)
    (entry : DumpEntry)
    (inner : List DumpNode) :
    NodeSpec :=
  { kind := entry.nodeKind
    location
    spelling := spelling entry.nodeKind entry inner
    type := spellingOf? entry.type
    value := value? entry.nodeKind entry inner
    isStatic := entry.storageClass == some "static" }

/-- A builder to which the node for an entry was added, and below it nothing but its bases. -/
structure GrowsByEntry
    (parent : NodeId)
    (spec : NodeSpec)
    (before after : UnitBuilder) :
    Prop where
  grows : Grows (some parent) [before.nodes.size] before after
  isNew : before.nodes.size < after.nodes.size
  spec_eq :
    (after.unindexed.node before.nodes.size).toNodeSpec = (nodeOf none spec).toNodeSpec
  bases :
    ∀ child ∈ after.unindexed.children before.nodes.size,
      after.unindexed.kind child = .baseSpecifier

theorem growsByEntry_pushTypes
    {builder : UnitBuilder}
    {parent : NodeId}
    (inside : parent < builder.nodes.size)
    (spec : NodeSpec)
    (types : List (Option String)) :
    GrowsByEntry parent spec builder
      ((builder.push (some parent) spec).pushTypes builder.nodes.size .baseSpecifier types) := by
  have isInside : ∀ id, some parent = some id → id < builder.nodes.size := by
    rintro _ ⟨⟩
    exact inside
  have isNew : builder.nodes.size < (builder.push (some parent) spec).nodes.size := by simp
  have grows := grows_push isInside spec
  obtain ⟨bases, growsInside, kinds⟩ := grows_pushTypes isNew .baseSpecifier types
  refine ⟨grows.trans_below growsInside, Nat.lt_of_lt_of_le isNew growsInside.size_le, ?_,
    fun child member => ?_⟩
  · rw [growsInside.spec_eq isNew, node_push isInside]
    rfl
  · rw [growsInside.children_eq isNew, if_pos rfl, children, node_push isInside] at member
    exact kinds child member

/-- What is added detached afterwards leaves the node for an entry alone. -/
theorem GrowsByEntry.trans_detached
    {parent : NodeId}
    {spec : NodeSpec}
    {first middle last : UnitBuilder}
    (grows : GrowsByEntry parent spec first middle)
    {added : List NodeId}
    (growsDetached : Grows none added middle last)
    (orderly : middle.unindexed.IsOrderly) :
    GrowsByEntry parent spec first last := by
  refine ⟨grows.grows.trans_detached growsDetached,
    Nat.lt_of_lt_of_le grows.isNew growsDetached.size_le, ?_, fun child member => ?_⟩
  · rw [growsDetached.spec_eq grows.isNew, grows.spec_eq]
  · rw [growsDetached.children_eq grows.isNew, if_neg (by simp), List.append_nil] at member
    rw [kind, growsDetached.spec_eq (orderly.child_lt member)]
    exact grows.bases child member

theorem run_pushEntry
    {parent : NodeId}
    (entry : DumpEntry)
    (inner : List DumpNode)
    {state : State}
    (inside : parent < state.builder.nodes.size)
    (reachable : state.builder.IsReachable) :
    ∃ after,
      (pushEntry parent entry inner).run state = (state.builder.nodes.size, after) ∧
        after.memory = state.memory.afterEntry entry ∧
        after.ids = identify state.ids entry state.builder.nodes.size ∧
        after.references =
          (openReference? entry.nodeKind entry inner state.builder.nodes.size).toList
            ++ state.references ∧
          GrowsByEntry parent (entrySpec (state.memory.locate entry) entry inner) state.builder
            after.builder := by
  have grows := growsByEntry_pushTypes inside (entrySpec (state.memory.locate entry) entry inner)
    (entry.bases.map spellingOf?)
  let id := state.builder.nodes.size
  -- Everything before this step is the same for all kinds, so the cases are split only here.
  let setConstructor : Converting NodeId := do
    if entry.nodeKind = .construct then
      let constructor ← pushConstructor entry
      modify fun state =>
        { state with builder := state.builder.setReferenced id constructor }
    return id
  obtain ⟨pushed, isRun, isMemory, areIds, areReferences, grows⟩ :
      ∃ pushed,
        (pushEntry parent entry inner).run state = setConstructor.run pushed ∧
          pushed.memory = state.memory.afterEntry entry ∧
          pushed.ids = identify state.ids entry id ∧
          pushed.references =
            (openReference? entry.nodeKind entry inner id).toList ++ state.references ∧
            GrowsByEntry parent (entrySpec (state.memory.locate entry) entry inner) state.builder
              pushed.builder := by
    simp only [pushEntry, run_bind, run_locateEntry, run_pushTypes]
    exact ⟨_, rfl, rfl, rfl, rfl, grows⟩
  by_cases isConstruct : entry.nodeKind = .construct
  · obtain ⟨builder, constructorRun, added, growsInside⟩ := run_pushConstructor entry pushed
    have growsMore := growsInside.trans
      (grows_setReferenced builder none id pushed.builder.nextId)
    refine ⟨{ pushed with builder := builder.setReferenced id pushed.builder.nextId }, ?_, isMemory,
      areIds, areReferences,
      grows.trans_detached growsMore (grows.grows.reachable reachable).isOrderly⟩
    rw [isRun]
    simp only [setConstructor, if_pos isConstruct, run_bind, constructorRun]
    rfl
  · refine ⟨pushed, ?_, isMemory, areIds, areReferences, grows⟩
    rw [isRun]
    simp only [setConstructor, if_neg isConstruct]
    rfl

/-! ## What a unit mirrors -/

/-- The nodes inside a node that were printed, not made up for a base. -/
def printedChildren
    (unit : TranslationUnit)
    (id : NodeId) :
    List NodeId :=
  (unit.children id).filter fun child => unit.kind child != .baseSpecifier

mutual

/-- Whether a node of a unit stands for a printed one, down to the leaves, if that is read with
what is remembered. -/
def Mirrors
    (unit : TranslationUnit)
    (memory : Memory)
    (id : NodeId) :
    DumpNode → Prop
  | .node entry inner =>
      (unit.node id).toNodeSpec =
          (nodeOf none (entrySpec (memory.locate entry) entry inner)).toNodeSpec ∧
        MirrorAll unit (memory.afterEntry entry) (printedChildren unit id) inner

/-- Whether nodes of a unit stand for printed ones, one for one and in order. -/
def MirrorAll
    (unit : TranslationUnit)
    (memory : Memory) :
    List NodeId → List DumpNode → Prop
  | [], [] => True
  | id :: ids, node :: rest =>
      Mirrors unit memory id node ∧ MirrorAll unit (memory.afterNode node) ids rest
  | _, _ => False

end

/-- No printed node is of the kind that is made up for bases. -/
theorem nodeKind_ne_baseSpecifier
    (entry : DumpEntry) :
    entry.nodeKind ≠ .baseSpecifier := by
  have noWord : ∀ word ∈ DumpEntry.kindWords, word.2 ≠ .baseSpecifier := by decide
  rw [DumpEntry.nodeKind]
  split
  · split <;> decide
  · cases found : DumpEntry.kindWords.lookup entry.kind with
    | none => decide
    | some kind =>
        obtain ⟨_, _, isSplit, _⟩ := List.lookup_eq_some_iff.mp found
        exact noWord (entry.kind, kind) (by simp [isSplit])

/-- Whether two units have the same nodes at some places, which include those of the children. -/
def AgreeOn
    (places : NodeId → Prop)
    (first last : TranslationUnit) :
    Prop :=
  ∀ id, places id →
    (last.node id).toNodeSpec = (first.node id).toNodeSpec ∧
      last.children id = first.children id ∧
        ∀ child ∈ first.children id, places child

theorem AgreeOn.printedChildren_eq
    {places : NodeId → Prop}
    {first last : TranslationUnit}
    (agree : AgreeOn places first last)
    {id : NodeId}
    (isPlace : places id) :
    printedChildren last id = printedChildren first id := by
  obtain ⟨-, sameChildren, arePlaces⟩ := agree id isPlace
  rw [printedChildren, printedChildren, sameChildren]
  refine List.filter_congr fun child member => ?_
  rw [kind, kind, (agree child (arePlaces child member)).1]

mutual

theorem Mirrors.of_agreeOn
    {places : NodeId → Prop}
    {first last : TranslationUnit}
    (agree : AgreeOn places first last)
    {memory : Memory}
    {id : NodeId}
    (isPlace : places id) :
    {node : DumpNode} →
    Mirrors first memory id node →
    Mirrors last memory id node
  | .node _ _, mirrors => by
      obtain ⟨sameSpec, -, arePlaces⟩ := agree id isPlace
      rw [Mirrors, sameSpec, agree.printedChildren_eq isPlace]
      exact ⟨mirrors.1, mirrors.2.of_agreeOn agree fun child member =>
        arePlaces child (List.mem_filter.mp member).1⟩

theorem MirrorAll.of_agreeOn
    {places : NodeId → Prop}
    {first last : TranslationUnit}
    (agree : AgreeOn places first last)
    {memory : Memory} :
    {ids : List NodeId} →
    (arePlaces : ∀ id ∈ ids, places id) →
    {printed : List DumpNode} →
    MirrorAll first memory ids printed →
    MirrorAll last memory ids printed
  | [], _, [], _ => by rw [MirrorAll]; trivial
  | id :: ids, arePlaces, node :: rest, mirror =>
      ⟨mirror.1.of_agreeOn agree (arePlaces id (List.mem_cons_self ..)),
        mirror.2.of_agreeOn agree fun other member =>
          arePlaces other (List.mem_cons_of_mem _ member)⟩

end

/-- What is added below a parent, or detached, leaves every node alone that comes after the
parent. -/
theorem agreeOn_of_grows
    {parent : Option NodeId}
    {added : List NodeId}
    {first last : UnitBuilder}
    (grows : Grows parent added first last)
    (orderly : first.unindexed.IsOrderly) :
    AgreeOn (fun id => id < first.nodes.size ∧ ∀ outer, parent = some outer → outer < id)
      first.unindexed last.unindexed := by
  rintro id ⟨isOld, below⟩
  have notParent : parent ≠ some id := fun isParent => Nat.lt_irrefl id (below id isParent)
  refine ⟨grows.spec_eq isOld, ?_, fun child isChild => ⟨orderly.child_lt isChild, ?_⟩⟩
  · rw [grows.children_eq isOld, if_neg notParent, List.append_nil]
  · exact fun outer isParent => Nat.lt_trans (below outer isParent) (orderly.lt_child isChild)

theorem Mirrors.kind_ne
    {unit : TranslationUnit}
    {memory : Memory}
    {id : NodeId}
    {node : DumpNode}
    (mirrors : Mirrors unit memory id node) :
    unit.kind id ≠ .baseSpecifier := by
  obtain ⟨entry, inner⟩ := node
  rw [Mirrors] at mirrors
  rw [kind, mirrors.1]
  exact nodeKind_ne_baseSpecifier entry

theorem MirrorAll.kind_ne
    {unit : TranslationUnit}
    {memory : Memory}
    {ids : List NodeId}
    {printed : List DumpNode}
    (mirror : MirrorAll unit memory ids printed) :
    ∀ id ∈ ids, unit.kind id ≠ .baseSpecifier := by
  induction printed generalizing memory ids with
  | nil => cases ids <;> simp_all [MirrorAll]
  | cons node rest inductionHypothesis =>
      cases ids with
      | nil => simp
      | cons id others =>
          rw [MirrorAll] at mirror
          exact List.forall_mem_cons.mpr ⟨mirror.1.kind_ne, inductionHypothesis mirror.2⟩

/-- A conversion after printed nodes, for which nodes were added below a parent. -/
structure GrowsBy
    (parent : NodeId)
    (printed : List DumpNode)
    (added : List NodeId)
    (before after : State) :
    Prop where
  grows : Grows (some parent) added before.builder after.builder
  memory_eq : after.memory = before.memory.afterNodes printed
  isNew : ∀ id ∈ added, before.builder.nodes.size ≤ id ∧ id < after.builder.nodes.size
  mirror : MirrorAll after.builder.unindexed before.memory added printed

namespace GrowsBy

variable
  {parent id : NodeId}
  {first middle last : State}
  {node : DumpNode}
  {inner rest : List DumpNode}
  {added : List NodeId}

/-- One node after the other. -/
theorem cons
    (grows : GrowsBy parent [node] [id] first middle)
    (growsMore : GrowsBy parent rest added middle last)
    (inside : parent < first.builder.nodes.size)
    (reachable : first.builder.IsReachable) :
    GrowsBy parent (node :: rest) (id :: added) first last := by
  have ⟨isAfter, isBefore⟩ := grows.isNew id (List.mem_singleton_self id)
  refine ⟨grows.grows.trans growsMore.grows, ?_, ?_, ?_⟩
  · rw [growsMore.memory_eq, grows.memory_eq]
    rfl
  · refine List.forall_mem_cons.mpr ⟨⟨isAfter, ?_⟩, fun other member => ?_⟩
    · exact Nat.lt_of_lt_of_le isBefore growsMore.grows.size_le
    · have ⟨isLater, isInside⟩ := growsMore.isNew other member
      exact ⟨Nat.le_trans grows.grows.size_le isLater, isInside⟩
  · have mirrors := grows.mirror
    have mirror := growsMore.mirror
    rw [MirrorAll] at mirrors ⊢
    rw [grows.memory_eq] at mirror
    -- The nodes that follow come below the same parent, which is above the first of them.
    have agree := agreeOn_of_grows growsMore.grows (grows.grows.reachable reachable).isOrderly
    refine ⟨mirrors.1.of_agreeOn agree ⟨isBefore, ?_⟩, mirror⟩
    rintro _ ⟨⟩
    exact Nat.lt_of_lt_of_le inside isAfter

/-- What is printed inside a node are the nodes that are added below it after its bases. -/
theorem printedChildren_eq
    {spec : NodeSpec}
    (grows : GrowsByEntry parent spec first.builder middle.builder)
    (growsInside : GrowsBy first.builder.nodes.size inner added middle last)
    (orderly : middle.builder.unindexed.IsOrderly) :
    printedChildren last.builder.unindexed first.builder.nodes.size = added := by
  have bases (child : NodeId)
      (member : child ∈ middle.builder.unindexed.children first.builder.nodes.size) :
      last.builder.unindexed.kind child = .baseSpecifier := by
    rw [kind, growsInside.grows.spec_eq (orderly.child_lt member)]
    exact grows.bases child member
  rw [printedChildren, growsInside.grows.children_eq grows.isNew, if_pos rfl, List.filter_append,
    List.filter_eq_nil_iff.mpr (by simpa using bases),
    List.filter_eq_self.mpr (by simpa using growsInside.mirror.kind_ne), List.nil_append]

/-- A node and then the nodes inside it. -/
theorem enclose
    {entry : DumpEntry}
    (grows :
      GrowsByEntry parent (entrySpec (first.memory.locate entry) entry inner) first.builder
        middle.builder)
    (isMemory : middle.memory = first.memory.afterEntry entry)
    (growsInside : GrowsBy first.builder.nodes.size inner added middle last)
    (orderly : middle.builder.unindexed.IsOrderly) :
    GrowsBy parent [.node entry inner] [first.builder.nodes.size] first last := by
  refine ⟨grows.grows.trans_below growsInside.grows, ?_, ?_, ?_⟩
  · rw [growsInside.memory_eq, isMemory]
    rfl
  · simpa using Nat.lt_of_lt_of_le grows.isNew growsInside.grows.size_le
  · have mirror := growsInside.mirror
    rw [isMemory] at mirror
    simp only [MirrorAll, Mirrors, and_true]
    rw [growsInside.grows.spec_eq grows.isNew, printedChildren_eq grows growsInside orderly]
    exact ⟨grows.spec_eq, mirror⟩

end GrowsBy

mutual

/-- The node that is added for a printed one mirrors it. -/
theorem growsBy_pushNode
    {parent : NodeId}
    {state : State}
    (inside : parent < state.builder.nodes.size)
    (reachable : state.builder.IsReachable) :
    (node : DumpNode) →
    GrowsBy parent [node] [state.builder.nodes.size] state ((pushNode parent node).run state).2
  | .node entry inner => by
      obtain ⟨entered, isRun, isMemory, -, -, grows⟩ := run_pushEntry entry inner inside reachable
      have enteredReachable := grows.grows.reachable reachable
      obtain ⟨added, growsInside⟩ := growsBy_pushNodes grows.isNew enteredReachable inner
      rw [pushNode, run_bind, isRun]
      exact .enclose grows isMemory growsInside enteredReachable.isOrderly

theorem growsBy_pushNodes
    {parent : NodeId}
    {state : State}
    (inside : parent < state.builder.nodes.size)
    (reachable : state.builder.IsReachable) :
    (printed : List DumpNode) →
    ∃ added, GrowsBy parent printed added state ((pushNodes parent printed).run state).2
  | [] => ⟨[], .refl _ _, rfl, by simp, by rw [MirrorAll]; trivial⟩
  | node :: rest => by
      have grows := growsBy_pushNode inside reachable node
      obtain ⟨added, growsMore⟩ :=
        growsBy_pushNodes (Nat.lt_of_lt_of_le inside grows.grows.size_le)
          (grows.grows.reachable reachable) rest
      rw [pushNodes, run_bind]
      exact ⟨_, grows.cons growsMore inside reachable⟩

end

/-! ## Linking -/

/-- A declaration that was never printed is added detached. -/
theorem grows_link
    (reference : OpenReference)
    (state : State) :
    ∃ added, Grows none added state.builder ((link reference).run state).2.builder := by
  simp only [link, run_bind, run_get]
  cases state.ids.get? reference.target with
  | some target => exact ⟨[], grows_setReferenced state.builder none reference.node target⟩
  | none =>
      have grows : Grows none [state.builder.nodes.size] state.builder
          (state.builder.push none reference.fallback) :=
        grows_push (by simp) reference.fallback
      exact ⟨_, grows.trans (grows_setReferenced _ none reference.node state.builder.nextId)⟩

theorem grows_linkAll
    (references : List OpenReference)
    (state : State) :
    ∃ added, Grows none added state.builder ((linkAll references).run state).2.builder := by
  induction references generalizing state with
  | nil => exact ⟨[], .refl _ _⟩
  | cons reference rest inductionHypothesis =>
      obtain ⟨_, grows⟩ := grows_link reference state
      obtain ⟨_, growsMore⟩ := inductionHypothesis ((link reference).run state).2
      rw [linkAll, run_bind]
      exact ⟨_, grows.trans growsMore⟩

/-- A conversion up to the linking of its references. -/
def unlinked
    (path : String)
    (printed : DumpNode) :
    State :=
  let start : State := { builder := UnitBuilder.start path }
  ((pushNodes root printed.inner).run (start.recall (Memory.afterEntry {} printed.entry))).2

end DumpConversion

namespace TranslationUnit

open DumpConversion

/-- What is printed is converted first, and its references are linked in the end. -/
theorem ofDump_eq
    (path : String)
    (printed : DumpNode) :
    ofDump path printed =
      ((linkAll (unlinked path printed).references.reverse).run
        (unlinked path printed)).2.builder.finish := by
  simp only [ofDump, convert, run_bind, run_locateEntry, run_get]
  rfl

/-- The unit of a dump mirrors what is printed below the root.  The root itself stands for the whole
unit: its own positions only move the memory. -/
theorem mirrorAll_ofDump
    (path : String)
    (printed : DumpNode) :
    (ofDump path printed).IsBuilt ∧
      ((ofDump path printed).node root).toNodeSpec =
          { kind := .translationUnit, spelling := path } ∧
        MirrorAll (ofDump path printed) (Memory.afterEntry {} printed.entry)
          ((ofDump path printed).children root) printed.inner := by
  have started : (UnitBuilder.start path).IsReachable := .start path
  let start : State := { builder := UnitBuilder.start path }
  let located := start.recall (Memory.afterEntry {} printed.entry)
  have rootIsOld : root < located.builder.nodes.size := Nat.one_pos
  obtain ⟨added, grows⟩ := growsBy_pushNodes rootIsOld started printed.inner
  let pushed := unlinked path printed
  obtain ⟨others, growsMore⟩ := grows_linkAll pushed.references.reverse pushed
  have growsInAll := grows.grows.trans_detached growsMore
  let linked := ((linkAll pushed.references.reverse).run pushed).2.builder
  have isChildren : linked.finish.children root = added :=
    growsInAll.children_eq rootIsOld
  have agree := agreeOn_of_grows growsMore (grows.grows.reachable started).isOrderly
  -- Finishing a builder only indexes its declarations.
  have agreeInEnd : AgreeOn (fun _ => True) linked.unindexed linked.finish :=
    fun _ _ => ⟨rfl, rfl, fun _ _ => trivial⟩
  have mirrorLinked : MirrorAll linked.unindexed located.memory added printed.inner :=
    grows.mirror.of_agreeOn agree fun id member => ⟨(grows.isNew id member).2, by simp⟩
  have mirror :
      MirrorAll linked.finish located.memory (linked.finish.children root) printed.inner := by
    rw [isChildren]
    exact mirrorLinked.of_agreeOn agreeInEnd fun _ _ => trivial
  rw [ofDump_eq]
  exact ⟨⟨linked, growsInAll.reachable started, rfl⟩, growsInAll.spec_eq rootIsOld, mirror⟩

end TranslationUnit

end BindingStubs
