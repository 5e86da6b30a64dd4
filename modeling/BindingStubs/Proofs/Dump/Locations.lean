import BindingStubs.Proofs.Dump.Conversion
import BindingStubs.Proofs.Dump.Printing

namespace BindingStubs.DumpPrinting

open DumpConversion

/-!
# Locations are read as they were printed

A conversion remembers the file and line that the compiler printed last, so it stays in step with
it over the whole dump, whatever places nodes have.  Then every node below the root gets the
location that it had before it was printed.
-/

/-! ## A memory in step with the printer -/

/-- Whether a memory holds the file and line of the location that was printed last. -/
def InStep
    (previous : Option Location)
    (memory : Memory) :
    Prop :=
  ∀ location, previous = some location →
    memory = { file := location.file, line := location.line }

namespace InStep

variable
  {previous : Option Location}
  {memory : Memory}

/-- What is left out of a position is what is remembered. -/
theorem advance_printedPosition
    (inStep : InStep previous memory)
    (location : Location) :
    memory.advance (printedPosition previous location) =
      { file := location.file, line := location.line } := by
  cases previous with
  | none => rfl
  | some last =>
      rw [inStep last rfl]
      by_cases sameFile : last.file = location.file <;>
        by_cases sameLine : last.line = location.line <;>
          simp [printedPosition, Memory.advance, sameFile, sameLine]

theorem after
    (inStep : InStep previous memory)
    (place : Option SourcePlace) :
    InStep (after previous place) (memory.after (printedLocation previous place)) := by
  rcases place with _ | position | ⟨spelling, expansion⟩
  · exact inStep
  · rintro _ ⟨⟩
    exact inStep.advance_printedPosition position.location
  · rintro _ ⟨⟩
    have inStepBetween : InStep (some spelling.location)
        (memory.advance (printedPosition previous spelling.location)) := by
      rintro _ ⟨⟩
      exact inStep.advance_printedPosition spelling.location
    exact inStepBetween.advance_printedPosition expansion.location

/-- A place is read as the location that it stands for. -/
theorem read?_printedLocation
    (inStep : InStep previous memory)
    (place : Option SourcePlace) :
    memory.read? (printedLocation previous place) = place.map SourcePlace.location := by
  cases place with
  | none => rfl
  | some place =>
      have isRead := inStep.after (some place) place.location rfl
      rw [Memory.read?, isRead]
      cases place <;> rfl

theorem afterEntry
    (inStep : InStep previous memory)
    (entry : DumpEntry)
    (own first last : Option SourcePlace) :
    InStep (afterPlaces previous own first last)
      (memory.afterEntry
        { entry with
          location := printedLocation previous own
          rangeStart := printedLocation (DumpPrinting.after previous own) first
          rangeEnd :=
            printedLocation (DumpPrinting.after (DumpPrinting.after previous own) first) last }) :=
  ((inStep.after own).after first).after last

mutual

theorem afterNode
    {previous : Option Location}
    {memory : Memory}
    (inStep : InStep previous memory) :
    (node : PlacedNode) →
    InStep (DumpPrinting.afterNode previous node) (memory.afterNode (dumpNode previous node))
  | .node record own first last inner => by
      rw [DumpPrinting.afterNode, dumpNode, Memory.afterNode]
      exact (inStep.afterEntry record.entry own first last).afterNodes inner

theorem afterNodes
    {previous : Option Location}
    {memory : Memory}
    (inStep : InStep previous memory) :
    (nodes : List PlacedNode) →
    InStep (DumpPrinting.afterNodes previous nodes) (memory.afterNodes (dumpNodes previous nodes))
  | [] => inStep
  | node :: rest => by
      rw [DumpPrinting.afterNodes, dumpNodes, Memory.afterNodes]
      exact (inStep.afterNode node).afterNodes rest

end

end InStep

/-! ## Units that show where nodes are -/

mutual

/-- Whether a node of a unit is where a node of a tree is, and so on for the nodes inside them. -/
def Shows
    (unit : TranslationUnit)
    (id : NodeId) :
    PlacedNode → Prop
  | .node record own first last inner =>
      unit.location id = (PlacedNode.node record own first last inner).location ∧
        ShowAll unit (printedChildren unit id) inner

/-- Whether nodes of a unit are where nodes of a tree are, one for one and in order. -/
def ShowAll
    (unit : TranslationUnit) :
    List NodeId → List PlacedNode → Prop
  | [], [] => True
  | id :: ids, node :: rest => Shows unit id node ∧ ShowAll unit ids rest
  | _, _ => False

end

/-- The location of a node is its own, or else where its range begins. -/
theorem InStep.locate_eq
    {previous : Option Location}
    {memory : Memory}
    (inStep : InStep previous memory)
    {entry : DumpEntry}
    {own first : Option SourcePlace}
    (isOwn : entry.location = printedLocation previous own)
    (isFirst : entry.rangeStart = printedLocation (DumpPrinting.after previous own) first) :
    memory.locate entry =
      ((own <|> first).map SourcePlace.location).getD Location.unknown := by
  rw [Memory.locate, isOwn, isFirst, inStep.read?_printedLocation,
    (inStep.after own).read?_printedLocation]
  cases own <;> rfl

mutual

theorem shows_of_mirrors
    {unit : TranslationUnit}
    {previous : Option Location}
    {memory : Memory}
    (inStep : InStep previous memory)
    {id : NodeId} :
    {node : PlacedNode} →
    Mirrors unit memory id (dumpNode previous node) →
    Shows unit id node
  | .node record own first last inner, mirrors => by
      rw [dumpNode, Mirrors] at mirrors
      refine ⟨?_, showAll_of_mirrorAll (inStep.afterEntry record.entry own first last) mirrors.2⟩
      rw [TranslationUnit.location, mirrors.1]
      exact inStep.locate_eq rfl rfl

theorem showAll_of_mirrorAll
    {unit : TranslationUnit}
    {previous : Option Location}
    {memory : Memory}
    (inStep : InStep previous memory) :
    {ids : List NodeId} →
    {nodes : List PlacedNode} →
    MirrorAll unit memory ids (dumpNodes previous nodes) →
    ShowAll unit ids nodes
  | [], [], _ => trivial
  | [], _ :: _, mirror => by simp [dumpNodes, MirrorAll] at mirror
  | _ :: _, [], mirror => by simp [dumpNodes, MirrorAll] at mirror
  | id :: ids, node :: rest, mirror => by
      rw [dumpNodes, MirrorAll] at mirror
      exact ⟨shows_of_mirrors inStep mirror.1,
        showAll_of_mirrorAll (inStep.afterNode node) mirror.2⟩

end

/-- Whatever tree is printed, its dump is read, and in the unit every node below the root is where
it is in the tree: at its own place, at the expansion if that is in a macro, or else where its
range begins, or else nowhere.  The root stands for the whole unit and has no location. -/
theorem ofDump_shows_printed_places
    (path : String)
    (root : PlacedNode) :
    ∃ dump,
      DumpNode.ofJson? (nodeJson none root) = some dump ∧
        let unit := TranslationUnit.ofDump path dump
        ShowAll unit (unit.children TranslationUnit.root) root.inner ∧
          unit.location TranslationUnit.root = Location.unknown := by
  obtain ⟨record, own, first, last, inner⟩ := root
  refine ⟨_, ofJson?_nodeJson none _, ?_⟩
  obtain ⟨_, isRoot, mirror⟩ :=
    TranslationUnit.mirrorAll_ofDump path (dumpNode none (.node record own first last inner))
  have inStep : InStep none ({} : Memory) := by
    rintro _ ⟨⟩
  refine ⟨showAll_of_mirrorAll (inStep.afterEntry record.entry own first last) ?_, ?_⟩
  · rw [dumpNode] at mirror
    exact mirror
  · rw [TranslationUnit.location, isRoot]
    rfl

/-- A root with a place of its own. -/
def placedRoot : PlacedNode :=
  .node
    { fields := [("kind", .string "TranslationUnitDecl")]
      unplaced := by decide
      isNode := rfl }
    (some (.plain { location := ⟨"a.cpp", 1, 1⟩, fits := by decide, unread := by simp }))
    none none []

/-- The root does not get the location that is printed for it. -/
theorem ofDump_leaves_root_unknown :
    placedRoot.location = ⟨"a.cpp", 1, 1⟩ ∧
      ∃ dump,
        DumpNode.ofJson? (nodeJson none placedRoot) = some dump ∧
          (TranslationUnit.ofDump "a.cpp" dump).location TranslationUnit.root ≠
            placedRoot.location := by
  refine ⟨rfl, _, ofJson?_nodeJson none placedRoot, ?_⟩
  decide

end BindingStubs.DumpPrinting
