import BindingStubs.Proofs.Dump.Reading
import BindingStubs.Proofs.Model.Decoding

namespace BindingStubs

/-!
# Printing dumps

A compiler prints each position relative to the one that it printed last: the file and the line
are left out when they are the same.  Of a node it prints its own place, the two ends of its range,
and then the nodes inside it.  What is printed is read back as the dump with these positions.
-/

namespace DumpPrinting

open Json DumpReader

/-! ## Trees with their places -/

/-- The fields of a location that are read. -/
def locationFields : List String := ["file", "line", "col", "spellingLoc", "expansionLoc"]

/-- The fields of a node in which its places and the nodes inside it are printed. -/
def placeFields : List String := ["loc", "range", "inner"]

/-- A position in a source file, with what is printed of it besides and not read. -/
structure SourcePosition where
  location : Location
  remarks : List (String × Json) := []
  fits : location.Fits
  unread : ∀ field ∈ remarks, field.1 ∉ locationFields

/-- A place in the source.  Inside a macro there are two positions: where the text is spelled and
where the macro is expanded. -/
inductive SourcePlace where
  | plain (position : SourcePosition)
  | inMacro (spelling expansion : SourcePosition)

/-- What is printed of a node besides its places and the nodes inside it.  By itself it reads as a
node.  Places and inner nodes that there are none of may be left out or printed empty. -/
structure NodeRecord where
  fields : List (String × Json)
  leavesOut : Bool := false
  unplaced : ∀ field ∈ fields, field.1 ∉ placeFields
  isNode : (DumpNode.ofJson? (.object fields)).isSome

/-- A node of a syntax tree with its own place and the two ends of its range. -/
inductive PlacedNode where
  | node (record : NodeRecord) (own first last : Option SourcePlace) (inner : List PlacedNode)

/-- The location that a place stands for. -/
def SourcePlace.location : SourcePlace → Location
  | .plain position => position.location
  | .inMacro _ expansion => expansion.location

/-- What is read of a node besides its places and the nodes inside it. -/
def NodeRecord.entry
    (record : NodeRecord) :
    DumpEntry :=
  ((DumpNode.ofJson? (.object record.fields)).get record.isNode).entry

namespace PlacedNode

/-- The nodes inside a node. -/
def inner : PlacedNode → List PlacedNode
  | .node _ _ _ _ inner => inner

/-- The location of a node: its own if it has one, otherwise where its range begins. -/
def location : PlacedNode → Location
  | .node _ own first _ _ => ((own <|> first).map SourcePlace.location).getD Location.unknown

end PlacedNode

/-! ## Positions -/

/-- How a location is printed after another. -/
def printedPosition
    (previous : Option Location)
    (location : Location) :
    PrintedPosition :=
  let sameFile : Bool := previous.map Location.file = some location.file
  let sameLine : Bool := previous.map Location.line = some location.line
  { file := if sameFile then none else some location.file
    line := if sameFile && sameLine then none else some location.line
    column := some location.column }

/-- The fields for a position. -/
def positionFields
    (position : PrintedPosition) :
    List (String × Json) :=
  (position.file.map fun file => ("file", Json.string file)).toList ++
    (position.line.map fun line => ("line", Json.ofNat line)).toList ++
      (position.column.map fun column => ("col", Json.ofNat column)).toList

/-- A position printed after a location. -/
def positionJson
    (previous : Option Location)
    (position : SourcePosition) :
    Json :=
  .object (position.remarks ++ positionFields (printedPosition previous position.location))

/-- A place printed after a location: the spelling comes before the expansion. -/
def placeJson
    (previous : Option Location) :
    SourcePlace → Json
  | .plain position => positionJson previous position
  | .inMacro spelling expansion =>
      .object
        [("spellingLoc", positionJson previous spelling),
         ("expansionLoc", positionJson (some spelling.location) expansion)]

/-- The field for a place that a node may not have. -/
def placeField
    (leavesOut : Bool)
    (name : String)
    (previous : Option Location) :
    Option SourcePlace → List (String × Json)
  | none => if leavesOut then [] else [(name, .object [])]
  | some place => [(name, placeJson previous place)]

/-- The field for the nodes inside a node. -/
def innerField
    (leavesOut : Bool)
    (items : List Json) :
    List (String × Json) :=
  if leavesOut && items.isEmpty then [] else [("inner", .array items)]

/-- The location that is printed last when a place is printed. -/
def after
    (previous : Option Location) :
    Option SourcePlace → Option Location
  | none => previous
  | some place => some place.location

/-- The positions that are printed for a place. -/
def printedLocation
    (previous : Option Location) :
    Option SourcePlace → PrintedLocation
  | none => {}
  | some (.plain position) => { positions := [printedPosition previous position.location] }
  | some (.inMacro spelling expansion) =>
      { positions :=
          [printedPosition previous spelling.location,
           printedPosition (some spelling.location) expansion.location] }

/-! ## Nodes -/

/-- The location that is printed last when the places of a node are printed. -/
def afterPlaces
    (previous : Option Location)
    (own first last : Option SourcePlace) :
    Option Location :=
  after (after (after previous own) first) last

mutual

/-- The location that is printed last when a node is printed with the nodes inside it. -/
def afterNode
    (previous : Option Location) :
    PlacedNode → Option Location
  | .node _ own first last inner => afterNodes (afterPlaces previous own first last) inner

/-- The location that is printed last when nodes are printed in order. -/
def afterNodes
    (previous : Option Location) :
    List PlacedNode → Option Location
  | [] => previous
  | node :: rest => afterNodes (afterNode previous node) rest

end

/-- The fields for the places of a node and for the nodes inside it. -/
def partFields
    (leavesOut : Bool)
    (previous : Option Location)
    (own first last : Option SourcePlace)
    (items : List Json) :
    List (String × Json) :=
  let afterOwn := after previous own
  placeField leavesOut "loc" previous own ++
    ("range", .object
        (placeField leavesOut "begin" afterOwn first ++
          placeField leavesOut "end" (after afterOwn first) last)) ::
      innerField leavesOut items

mutual

/-- A node printed after a location. -/
def nodeJson
    (previous : Option Location) :
    PlacedNode → Json
  | .node record own first last inner =>
      .object
        (record.fields ++
          partFields record.leavesOut previous own first last
            (nodesJson (afterPlaces previous own first last) inner))

/-- Nodes printed in order. -/
def nodesJson
    (previous : Option Location) :
    List PlacedNode → List Json
  | [] => []
  | node :: rest => nodeJson previous node :: nodesJson (afterNode previous node) rest

end

mutual

/-- The dump of a node that is printed after a location. -/
def dumpNode
    (previous : Option Location) :
    PlacedNode → DumpNode
  | .node record own first last inner =>
      let afterOwn := after previous own
      .node
        { record.entry with
          location := printedLocation previous own
          rangeStart := printedLocation afterOwn first
          rangeEnd := printedLocation (after afterOwn first) last }
        (dumpNodes (afterPlaces previous own first last) inner)

/-- The dumps of nodes that are printed in order. -/
def dumpNodes
    (previous : Option Location) :
    List PlacedNode → List DumpNode
  | [] => []
  | node :: rest => dumpNode previous node :: dumpNodes (afterNode previous node) rest

end

/-! ## Reading places -/

theorem names_positionFields
    (position : PrintedPosition) :
    ((positionFields position).map Prod.fst).Sublist ["file", "line", "col"] := by
  obtain ⟨file, line, column⟩ := position
  cases file <;> cases line <;> cases column <;> simp [positionFields]

theorem readLocationWithin?_positionFields
    (depth : Nat)
    {remarks : List (String × Json)}
    (unread : ∀ field ∈ remarks, field.1 ∉ locationFields)
    {position : PrintedPosition}
    (lineFits : ∀ line, position.line = some line → line < positionLimit)
    (columnFits : ∀ column, position.column = some column → column < positionLimit) :
    readLocationWithin? (depth + 1) (.object (remarks ++ positionFields position)) =
      some { positions := [position] } := by
  have names := names_positionFields position
  have isKnown : ∀ field ∈ positionFields position, field.1 ∈ locationFields :=
    fun field member => List.mem_append_left ["spellingLoc", "expansionLoc"]
      (names.subset (List.mem_map_of_mem member))
  let record : Record := { fields := positionFields position, isPositional := false }
  have isRecord :
      record? ["file", "line", "col", "spellingLoc", "expansionLoc"]
        (.object (remarks ++ positionFields position)) = some record :=
    record?_append_of_unread unread isKnown (names.nodup (by decide))
  obtain ⟨file, line, column⟩ := position
  have readFile : record.optional "file" string? = some file := by
    cases file <;> cases line <;> cases column <;> rfl
  have readLine : record.optional "line" (below? positionLimit) = some line := by
    cases line with
    | none => cases file <;> cases column <;> rfl
    | some line =>
        have isBelow : below? positionLimit (ofNat line) = some line := if_pos (lineFits line rfl)
        cases file <;> cases column <;> exact congrArg (Option.map some) isBelow
  have readColumn : record.optional "col" (below? positionLimit) = some column := by
    cases column with
    | none => cases file <;> cases line <;> rfl
    | some column =>
        have isBelow : below? positionLimit (ofNat column) = some column :=
          if_pos (columnFits column rfl)
        cases file <;> cases line <;> exact congrArg (Option.map some) isBelow
  have readSpelling :
      record.optional "spellingLoc" (readLocationWithin? depth) = some none := by
    cases file <;> cases line <;> cases column <;> rfl
  have readExpansion :
      record.optional "expansionLoc" (readLocationWithin? depth) = some none := by
    cases file <;> cases line <;> cases column <;> rfl
  rw [readLocationWithin?, isRecord]
  simp only [Option.bind_eq_bind, Option.bind_some, readFile, readLine, readColumn, readSpelling,
    readExpansion]
  rfl

theorem readLocationWithin?_positionJson
    (depth : Nat)
    (previous : Option Location)
    (position : SourcePosition) :
    readLocationWithin? (depth + 1) (positionJson previous position) =
      some { positions := [printedPosition previous position.location] } := by
  refine readLocationWithin?_positionFields depth position.unread (fun line isLine => ?_) ?_
  · simp only [printedPosition] at isLine
    split at isLine <;> cases isLine
    exact position.fits.1
  · rintro _ ⟨⟩
    exact position.fits.2

theorem readLocationWithin?_placeJson
    (depth : Nat)
    (previous : Option Location)
    (place : SourcePlace) :
    readLocationWithin? (depth + 2) (placeJson previous place) =
      some (printedLocation previous (some place)) := by
  cases place with
  | plain position => exact readLocationWithin?_positionJson (depth + 1) previous position
  | inMacro spelling expansion =>
      let record : Record :=
        { fields :=
            [("spellingLoc", positionJson previous spelling),
             ("expansionLoc", positionJson (some spelling.location) expansion)]
          isPositional := false }
      have isRecord :
          record? ["file", "line", "col", "spellingLoc", "expansionLoc"]
            (placeJson previous (.inMacro spelling expansion)) = some record :=
        rfl
      have readSpelling :
          record.optional "spellingLoc" (readLocationWithin? (depth + 1)) =
            some (some { positions := [printedPosition previous spelling.location] }) :=
        optional_eq_some rfl (readLocationWithin?_positionJson depth previous spelling)
      have readExpansion :
          record.optional "expansionLoc" (readLocationWithin? (depth + 1)) =
            some (some
              { positions := [printedPosition (some spelling.location) expansion.location] }) :=
        optional_eq_some rfl
          (readLocationWithin?_positionJson depth (some spelling.location) expansion)
      rw [readLocationWithin?, isRecord]
      simp only [Option.bind_eq_bind, Option.bind_some, readSpelling, readExpansion]
      rfl

theorem defaulted_placeField
    {depth : Nat}
    {record : Record}
    (leavesOut : Bool)
    {name : String}
    {previous : Option Location}
    {place : Option SourcePlace}
    (found : record.fields.lookup name = (placeField leavesOut name previous place).lookup name) :
    record.defaulted name {} (readLocationWithin? (depth + 2)) =
      some (printedLocation previous place) := by
  rw [Record.defaulted, found]
  cases place with
  | none => cases leavesOut <;> simp [placeField] <;> rfl
  | some place => simp [placeField, readLocationWithin?_placeJson]

theorem readRangeWithin?_placeFields
    (depth : Nat)
    (leavesOut : Bool)
    (previous between : Option Location)
    (first last : Option SourcePlace) :
    readRangeWithin? (depth + 2)
        (.object
          (placeField leavesOut "begin" previous first ++
            placeField leavesOut "end" between last)) =
      some (printedLocation previous first, printedLocation between last) := by
  let record : Record :=
    { fields :=
        placeField leavesOut "begin" previous first ++ placeField leavesOut "end" between last
      isPositional := false }
  have isRecord : record? ["begin", "end"] (.object record.fields) = some record := by
    cases leavesOut <;> cases first <;> cases last <;> rfl
  have readFirst :
      record.defaulted "begin" {} (readLocationWithin? (depth + 2)) =
        some (printedLocation previous first) := by
    refine defaulted_placeField leavesOut ?_
    cases leavesOut <;> cases first <;> cases last <;> rfl
  have readLast :
      record.defaulted "end" {} (readLocationWithin? (depth + 2)) =
        some (printedLocation between last) := by
    refine defaulted_placeField leavesOut ?_
    cases leavesOut <;> cases first <;> cases last <;> rfl
  rw [readRangeWithin?, isRecord]
  simp only [Option.bind_eq_bind, Option.bind_some, readFirst, readLast]
  rfl

/-! ## Reading nodes -/

/-- A record with the places of a node besides. -/
def withPlaces
    (record : Record)
    (places : List (String × Json)) :
    Record :=
  { fields := record.fields ++ places, isPositional := false }

section WithPlaces

variable
  {α : Type}
  {record : Record}
  {places : List (String × Json)}
  {name : String}
  {fallback : α}
  {decode : Json → Option α}

theorem lookup_withPlaces_of_other
    (known : ∀ field ∈ places, field.1 ∈ placeFields)
    (isOther : name ∉ placeFields) :
    (withPlaces record places).fields.lookup name = record.fields.lookup name := by
  have absent : places.lookup name = none :=
    List.lookup_eq_none_iff.mpr fun field member =>
      bne_iff_ne.mpr fun same => isOther (same ▸ known field member)
  rw [withPlaces, List.lookup_append, absent, Option.or_none]

theorem lookup_of_unplaced
    (unplaced : ∀ field ∈ record.fields, field.1 ∉ placeFields)
    (isPlace : name ∈ placeFields) :
    record.fields.lookup name = none :=
  List.lookup_eq_none_iff.mpr fun field member =>
    bne_iff_ne.mpr fun same => unplaced field member (same ▸ isPlace)

variable
  {node whole : DumpNode}
  {next : α → Option DumpNode}

/-- A field other than the places is read as it is without them. -/
theorem bind_optional_withPlaces
    (isNamed : record.isPositional = false)
    (known : ∀ field ∈ places, field.1 ∈ placeFields)
    (isOther : name ∉ placeFields)
    {nextAlso : Option α → Option DumpNode}
    {next : Option α → Option DumpNode}
    (isRead : (record.optional name decode).bind next = some node)
    (rest : ∀ value, next value = some node → nextAlso value = some whole) :
    ((withPlaces record places).optional name decode).bind nextAlso = some whole := by
  have same : (withPlaces record places).optional name decode = record.optional name decode := by
    rw [Record.optional, Record.optional, lookup_withPlaces_of_other known isOther, isNamed]
    rfl
  obtain ⟨value, found, isRest⟩ := Option.bind_eq_some_iff.mp isRead
  rw [same, found]
  exact rest value isRest

/-- A field other than the places is read as it is without them. -/
theorem bind_defaulted_withPlaces
    (known : ∀ field ∈ places, field.1 ∈ placeFields)
    (isOther : name ∉ placeFields)
    {nextAlso : α → Option DumpNode}
    (isRead : (record.defaulted name fallback decode).bind next = some node)
    (rest : ∀ value, next value = some node → nextAlso value = some whole) :
    ((withPlaces record places).defaulted name fallback decode).bind nextAlso = some whole := by
  have same :
      (withPlaces record places).defaulted name fallback decode =
        record.defaulted name fallback decode := by
    rw [Record.defaulted, Record.defaulted, lookup_withPlaces_of_other known isOther]
  obtain ⟨value, found, isRest⟩ := Option.bind_eq_some_iff.mp isRead
  rw [same, found]
  exact rest value isRest

/-- A place is read where there was only its default. -/
theorem bind_place_withPlaces
    (unplaced : ∀ field ∈ record.fields, field.1 ∉ placeFields)
    (isPlace : name ∈ placeFields)
    {value : α}
    (readPlace : Record.defaulted ⟨places, false⟩ name fallback decode = some value)
    {nextAlso : α → Option DumpNode}
    (isRead : (record.defaulted name fallback decode).bind next = some node)
    (rest : next fallback = some node → nextAlso value = some whole) :
    ((withPlaces record places).defaulted name fallback decode).bind nextAlso = some whole := by
  have absent := lookup_of_unplaced unplaced isPlace
  have isPlaced : (withPlaces record places).defaulted name fallback decode = some value := by
    rw [← readPlace, Record.defaulted, Record.defaulted, withPlaces, List.lookup_append, absent,
      Option.none_or]
  rw [Record.defaulted, absent] at isRead
  rw [isPlaced]
  exact rest isRead

end WithPlaces

/-- A node is read with its places and the nodes inside it, if it is read without them. -/
theorem readNodeWithin?_append
    {depth : Nat}
    {fields places : List (String × Json)}
    {node : DumpNode}
    (isNode : readNodeWithin? (depth + 1) (.object fields) = some node)
    (unplaced : ∀ field ∈ fields, field.1 ∉ placeFields)
    (names : (places.map Prod.fst).Sublist placeFields)
    {location : PrintedLocation}
    {range : PrintedLocation × PrintedLocation}
    {inner : List DumpNode}
    (readLocation :
      Record.defaulted ⟨places, false⟩ "loc" {} (readLocationWithin? depth) = some location)
    (readRange :
      Record.defaulted ⟨places, false⟩ "range" ({}, {}) (readRangeWithin? depth) = some range)
    (readInner :
      Record.defaulted ⟨places, false⟩ "inner" [] (list? (readNodeWithin? depth)) = some inner) :
    readNodeWithin? (depth + 1) (.object (fields ++ places)) =
      some (.node
        { node.entry with location, rangeStart := range.1, rangeEnd := range.2 } inner) := by
  have known : ∀ field ∈ places, field.1 ∈ placeFields := fun field member =>
    names.subset (List.mem_map_of_mem member)
  have areFields : ∀ name ∈ placeFields, name ∈ nodeFields := by decide
  rw [readNodeWithin?] at isNode ⊢
  obtain ⟨record, isRecord, isRead⟩ := Option.bind_eq_some_iff.mp isNode
  obtain ⟨isNamed, recordUnplaced⟩ :
      record.isPositional = false ∧ ∀ field ∈ record.fields, field.1 ∉ placeFields := by
    simp only [record?] at isRecord
    split at isRecord <;> cases isRecord
    exact ⟨rfl, fun field member => unplaced field (List.mem_filter.mp member).1⟩
  have isWhole :
      record? nodeFields (.object (fields ++ places)) = some (withPlaces record places) :=
    record?_append isRecord (fun field member => areFields field.1 (known field member))
      (names.nodup (by decide)) fun field member isPlace =>
        unplaced field member (names.subset isPlace)
  rw [isWhole]
  -- The fields are taken in the order in which they are read.
  refine bind_defaulted_withPlaces known (by decide) isRead fun id isRead => ?_
  refine bind_defaulted_withPlaces known (by decide) isRead fun kind isRead => ?_
  refine bind_optional_withPlaces isNamed known (by decide) isRead fun name isRead => ?_
  refine bind_place_withPlaces recordUnplaced (by decide) readLocation isRead fun isRead => ?_
  refine bind_place_withPlaces recordUnplaced (by decide) readRange isRead fun isRead => ?_
  refine bind_optional_withPlaces isNamed known (by decide) isRead fun type isRead => ?_
  refine bind_place_withPlaces recordUnplaced (by decide) readInner isRead fun isRead => ?_
  refine bind_optional_withPlaces isNamed known (by decide) isRead fun referenced isRead => ?_
  refine bind_optional_withPlaces isNamed known (by decide) isRead fun member isRead => ?_
  refine bind_optional_withPlaces isNamed known (by decide) isRead fun value isRead => ?_
  refine bind_optional_withPlaces isNamed known (by decide) isRead fun operator isRead => ?_
  refine bind_optional_withPlaces isNamed known (by decide) isRead fun storage isRead => ?_
  refine bind_defaulted_withPlaces known (by decide) isRead fun bases isRead => ?_
  refine bind_optional_withPlaces isNamed known (by decide) isRead fun constructor isRead => ?_
  refine bind_optional_withPlaces isNamed known (by decide) isRead fun tag isRead => ?_
  cases isRead
  rfl

section PartFields

variable
  (leavesOut : Bool)
  (previous : Option Location)
  (own first last : Option SourcePlace)
  (items : List Json)

theorem names_partFields :
    ((partFields leavesOut previous own first last items).map Prod.fst).Sublist placeFields := by
  cases leavesOut <;> cases own <;> cases items <;>
    simp [partFields, placeField, innerField, placeFields]

theorem defaulted_loc_partFields
    (depth : Nat) :
    Record.defaulted ⟨partFields leavesOut previous own first last items, false⟩ "loc" {}
        (readLocationWithin? (depth + 2)) =
      some (printedLocation previous own) := by
  refine defaulted_placeField leavesOut ?_
  cases leavesOut <;> cases own <;> cases items <;> rfl

theorem defaulted_range_partFields
    (depth : Nat) :
    Record.defaulted ⟨partFields leavesOut previous own first last items, false⟩ "range" ({}, {})
        (readRangeWithin? (depth + 2)) =
      some (printedLocation (after previous own) first,
        printedLocation (after (after previous own) first) last) := by
  rw [← readRangeWithin?_placeFields depth leavesOut]
  cases leavesOut <;> cases own <;> rfl

theorem defaulted_inner_partFields
    (decode : Json → Option DumpNode) :
    Record.defaulted ⟨partFields leavesOut previous own first last items, false⟩ "inner" []
        (list? decode) =
      items.mapM decode := by
  cases leavesOut <;> cases own <;> cases items <;> rfl

end PartFields

/-- The entry of a record is what is read of it with depth enough. -/
theorem NodeRecord.readNodeWithin?_eq
    (record : NodeRecord)
    {depth : Nat}
    (enough : (Json.object record.fields).depth ≤ depth) :
    ∃ inner, readNodeWithin? depth (.object record.fields) = some (.node record.entry inner) := by
  rw [readNodeWithin?_eq_ofJson? enough, ← Option.some_get record.isNode, NodeRecord.entry]
  cases (DumpNode.ofJson? (.object record.fields)).get record.isNode with
  | node entry inner => exact ⟨inner, rfl⟩

mutual

/-- With depth enough, what is printed for a node is read as its dump. -/
theorem exists_readNodeWithin?_nodeJson
    (previous : Option Location) :
    (node : PlacedNode) →
    ∃ enough, ∀ depth, enough ≤ depth →
      readNodeWithin? depth (nodeJson previous node) = some (dumpNode previous node)
  | .node record own first last inner => by
      obtain ⟨enough, readInner⟩ :=
        exists_mapM_nodesJson (afterPlaces previous own first last) inner
      refine ⟨max (enough + 3) (Json.object record.fields).depth, fun depth isEnough => ?_⟩
      obtain ⟨innerEnough, recordEnough⟩ := Nat.max_le.mp isEnough
      obtain ⟨_, isNode⟩ := record.readNodeWithin?_eq recordEnough
      obtain ⟨depth, rfl⟩ : ∃ less, depth = less + 3 := ⟨depth - 3, by omega⟩
      rw [nodeJson, dumpNode]
      exact readNodeWithin?_append isNode record.unplaced (names_partFields ..)
        (defaulted_loc_partFields ..) (defaulted_range_partFields ..)
        ((defaulted_inner_partFields ..).trans (readInner _ (by omega)))

/-- With depth enough, what is printed for nodes is read as their dumps. -/
theorem exists_mapM_nodesJson
    (previous : Option Location) :
    (nodes : List PlacedNode) →
    ∃ enough, ∀ depth, enough ≤ depth →
      (nodesJson previous nodes).mapM (readNodeWithin? depth) = some (dumpNodes previous nodes)
  | [] => ⟨0, fun _ _ => rfl⟩
  | node :: rest => by
      obtain ⟨enough, readNode⟩ := exists_readNodeWithin?_nodeJson previous node
      obtain ⟨enoughForRest, readRest⟩ := exists_mapM_nodesJson (afterNode previous node) rest
      refine ⟨max enough enoughForRest, fun depth isEnough => ?_⟩
      obtain ⟨isEnoughForNode, isEnoughForRest⟩ := Nat.max_le.mp isEnough
      rw [nodesJson, List.mapM_cons, readNode depth isEnoughForNode, readRest depth isEnoughForRest]
      rfl

end

/-- What is printed for a node is read as its dump. -/
theorem ofJson?_nodeJson
    (previous : Option Location)
    (node : PlacedNode) :
    DumpNode.ofJson? (nodeJson previous node) = some (dumpNode previous node) := by
  obtain ⟨enough, readNode⟩ := exists_readNodeWithin?_nodeJson previous node
  rw [← readNodeWithin?_eq_ofJson? (Nat.le_max_left _ enough)]
  exact readNode _ (Nat.le_max_right _ _)

end DumpPrinting

end BindingStubs
