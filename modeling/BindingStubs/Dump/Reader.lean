import BindingStubs.Dump.Basic
import BindingStubs.Json.Record

namespace BindingStubs

/-!
# Reading syntax dumps

A dump is read from JSON.  A field of the wrong shape anywhere refuses the whole dump, also
inside a record of which only a part is kept.
-/

namespace DumpReader

open Json

/-- The number of values a line or column is taken from. -/
def positionLimit : Nat := Width.limit 32

/-- A type. -/
def readType?
    (value : Json) :
    Option PrintedType := do
  let record ← record? ["qualType", "desugaredQualType"] value
  return {
    written := ← record.optional "qualType" Json.string?
    desugared := ← record.optional "desugaredQualType" Json.string? }

/-- A base class, of which only the type is kept. -/
def readBase?
    (value : Json) :
    Option (Option PrintedType) := do
  let record ← record? ["type"] value
  record.optional "type" readType?

/-- A location whose parts nest at most as deep as given. -/
def readLocationWithin? :
    (depth : Nat) → Json → Option PrintedLocation
  | 0, _ => none
  | depth + 1, value => do
      let record ← record? ["file", "line", "col", "spellingLoc", "expansionLoc"] value
      let file ← record.optional "file" Json.string?
      let line ← record.optional "line" (Json.below? positionLimit)
      let column ← record.optional "col" (Json.below? positionLimit)
      let spelling ← record.optional "spellingLoc" (readLocationWithin? depth)
      let expansion ← record.optional "expansionLoc" (readLocationWithin? depth)
      match spelling, expansion with
      | none, none => return { positions := [{ file, line, column }], isSite := true }
      | some spelling, none => return { spelling with isSite := false }
      | none, some expansion => return expansion
      | some spelling, some expansion =>
          return { expansion with positions := spelling.positions ++ expansion.positions }

/-- The two ends of a range. -/
def readRangeWithin?
    (depth : Nat)
    (value : Json) :
    Option (PrintedLocation × PrintedLocation) := do
  let record ← record? ["begin", "end"] value
  let first ← record.defaulted "begin" {} (readLocationWithin? depth)
  let last ← record.defaulted "end" {} (readLocationWithin? depth)
  return (first, last)

/-- What is kept of a declaration that another node refers to. -/
def referenceTo
    (node : DumpNode) :
    PrintedReference :=
  { id := node.entry.id
    kind := node.entry.nodeKind
    name := node.entry.name
    type := node.entry.type }

/-- A value that is readable throughout. -/
def readValue?
    (value : Json) :
    Option Json :=
  if value.isReadable then some value else none

/-- The fields of a node in their order. -/
def nodeFields : List String :=
  ["id", "kind", "name", "loc", "range", "type", "inner", "referencedDecl",
   "referencedMemberDecl", "value", "opcode", "storageClass", "bases", "ctorType", "tagUsed"]

/-- A node whose parts nest at most as deep as given. -/
def readNodeWithin? :
    (depth : Nat) → Json → Option DumpNode
  | 0, _ => none
  | depth + 1, value => do
      let record ← record? nodeFields value
      let id ← record.defaulted "id" "" Json.string?
      let kind ← record.defaulted "kind" "" Json.string?
      let name ← record.optional "name" Json.string?
      let location ← record.defaulted "loc" {} (readLocationWithin? depth)
      let range ← record.defaulted "range" ({}, {}) (readRangeWithin? depth)
      let type ← record.optional "type" readType?
      let inner ← record.defaulted "inner" [] (Json.list? (readNodeWithin? depth))
      let referenced ← record.optional "referencedDecl" (readNodeWithin? depth)
      let referencedMember ← record.optional "referencedMemberDecl" Json.string?
      let value ← record.optional "value" readValue?
      let operator ← record.optional "opcode" Json.string?
      let storageClass ← record.optional "storageClass" Json.string?
      let bases ← record.defaulted "bases" [] (Json.list? readBase?)
      let constructorType ← record.optional "ctorType" readType?
      let tag ← record.optional "tagUsed" Json.string?
      let entry : DumpEntry :=
        { id, kind, tag, name, location
          rangeStart := range.1
          rangeEnd := range.2
          type
          referenced := referenced.map referenceTo
          referencedMember, value, operator, storageClass, bases, constructorType }
      return .node entry inner

end DumpReader

/-- The dump that a JSON value holds.  No part of a value nests deeper than the value. -/
def DumpNode.ofJson?
    (value : Json) :
    Option DumpNode :=
  DumpReader.readNodeWithin? value.depth value

end BindingStubs
