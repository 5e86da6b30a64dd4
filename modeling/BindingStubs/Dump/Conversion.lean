import BindingStubs.Dump.PrintedString
import BindingStubs.Dump.Reader
import BindingStubs.Failure
import BindingStubs.Json.Reader
import BindingStubs.Json.Writer
import BindingStubs.Tree.Unit

namespace BindingStubs

/-!
# Translation units from syntax dumps

Nodes are taken in the order in which they are printed, because positions are printed
relative to the one before.  A reference may precede its declaration, so references are
linked at the end; a declaration that is never printed becomes a detached node.
-/

namespace DumpConversion

/-- A reference whose declaration may be printed later. -/
structure OpenReference where
  node : NodeId
  target : String
  fallback : NodeSpec
  deriving Repr, DecidableEq

/-- The unit so far, the nodes by their printed identity, and the position printed last. -/
structure State where
  builder : UnitBuilder
  ids : Keyed NodeId := {}
  references : List OpenReference := []
  file : String := ""
  line : Nat := 0
  deriving Repr, DecidableEq

/-- A step of a conversion. -/
abbrev Converting (Result : Type) := StateM State Result

/-- Take over the file and line of a printed position. -/
def advance
    (state : State)
    (position : PrintedPosition) :
    State :=
  { state with
    file := position.file.getD state.file
    line := position.line.getD state.line }

/-- Read the positions of a location; it is known when the last one has a column. -/
def locate
    (location : PrintedLocation) :
    Converting (Option Location) := do
  modify fun state => location.positions.foldl advance state
  let state ← get
  match location.positions.getLast? with
  | some position =>
      if location.isSite then
        return position.column.map fun column =>
          { file := state.file, line := state.line, column }
      else return none
  | none => return none

/-- The location of a node: its own if it has one, otherwise the start of its range. -/
def locateEntry
    (entry : DumpEntry) :
    Converting Location := do
  let own ← locate entry.location
  let start ← locate entry.rangeStart
  let _ ← locate entry.rangeEnd
  return (own <|> start).getD Location.unknown

/-- The spelling of an optional type. -/
def spellingOf?
    (type : Option PrintedType) :
    Option String :=
  type.bind PrintedType.spelling?

/-- The text of a value: a string stands for itself. -/
def valueText : Json → String
  | .string text => text
  | other => other.sortFields.compact

mutual

/-- The entry of an expression below casts and parentheses. -/
def unwrapped? : DumpNode → Option DumpEntry
  | .node entry inner =>
      if DumpEntry.calleeWrappers.contains entry.kind then firstUnwrapped? inner
      else some entry

/-- The entry of the first expression of a list below casts and parentheses. -/
def firstUnwrapped? : List DumpNode → Option DumpEntry
  | [] => none
  | first :: _ => unwrapped? first

end

/-- The spelling of a node.  A call is spelled like its callee. -/
def spelling
    (kind : NodeKind)
    (entry : DumpEntry)
    (inner : List DumpNode) :
    String :=
  let spelled :=
    match kind with
    | .call =>
        (firstUnwrapped? inner).bind fun callee =>
          (callee.referenced.bind PrintedReference.name) <|> callee.name
    | .declarationReference => entry.referenced.bind PrintedReference.name
    | .binaryOperator | .unaryOperator => entry.operator
    | _ => entry.name
  spelled.getD ""

/-- The value of a node.  The explicit value of an enumerator is folded into a constant. -/
def value?
    (kind : NodeKind)
    (entry : DumpEntry)
    (inner : List DumpNode) :
    Option String :=
  match kind with
  | .stringLiteral => (entry.value.bind Json.string?).map PrintedString.decode
  | .enumerator =>
      ((inner.find? fun child => child.entry.kind == DumpEntry.constantKind).bind
        fun child => child.entry.value).map valueText
  | _ => entry.value.map valueText

/-- The node that stands for a declaration that is never printed. -/
def declarationSpec
    (reference : PrintedReference) :
    NodeSpec :=
  { kind := reference.kind
    spelling := reference.name.getD ""
    type := spellingOf? reference.type }

/-- The type that is printed for a method that is about to be called. -/
def boundMethodType : String := "<bound member function type>"

/-- The open reference of a node, if it has one. -/
def openReference?
    (kind : NodeKind)
    (entry : DumpEntry)
    (inner : List DumpNode)
    (node : NodeId) :
    Option OpenReference :=
  match kind with
  | .declarationReference =>
      entry.referenced.map fun reference =>
        { node, target := reference.id, fallback := declarationSpec reference }
  | .memberReference =>
      entry.referencedMember.map fun target =>
        let memberKind : NodeKind :=
          if entry.type.bind PrintedType.written == some boundMethodType then .method else .field
        { node, target, fallback := { kind := memberKind, spelling := entry.name.getD "" } }
  | .call =>
      (firstUnwrapped? inner).bind fun callee =>
        match callee.referenced, callee.referencedMember with
        | some reference, _ =>
            some { node, target := reference.id, fallback := declarationSpec reference }
        | none, some target =>
            some { node, target, fallback := { kind := .method, spelling := callee.name.getD "" } }
        | none, none => none
  | _ => none

/-- Add a node to the unit. -/
def push
    (parent : Option NodeId)
    (spec : NodeSpec) :
    Converting NodeId := do
  let state ← get
  set { state with builder := state.builder.push parent spec }
  return state.builder.nextId

/-- Add nodes of one kind that have nothing but a type. -/
def pushTypes
    (parent : NodeId)
    (kind : NodeKind) :
    List (Option String) → Converting Unit
  | [] => return
  | type :: rest => do
      let _ ← push (some parent) { kind, type }
      pushTypes parent kind rest

/-- Add the constructor that an expression calls.  Only its type is printed, so it becomes
a detached node with one parameter for each parameter type. -/
def pushConstructor
    (entry : DumpEntry) :
    Converting NodeId := do
  let type := spellingOf? entry.constructorType
  let declaration ← push none
    { kind := .constructor, spelling := (spellingOf? entry.type).getD "", type }
  let parameters :=
    match type.bind fun text => FunctionType.split? text.toList with
    | some function => function.parameters
    | none => []
  pushTypes declaration .parameter (parameters.map fun parameter => some (String.ofList parameter))
  return declaration

/-- Add a node without the nodes inside it. -/
def pushEntry
    (parent : NodeId)
    (entry : DumpEntry)
    (inner : List DumpNode) :
    Converting NodeId := do
  let location ← locateEntry entry
  let kind := entry.nodeKind
  let id ← push (some parent)
    { kind, location
      spelling := spelling kind entry inner
      type := spellingOf? entry.type
      value := value? kind entry inner
      isStatic := entry.storageClass == some "static" }
  modify fun state =>
    { state with
      ids :=
        if entry.id.isEmpty || state.ids.contains entry.id then state.ids
        else state.ids.insert entry.id id
      references := (openReference? kind entry inner id).toList ++ state.references }
  pushTypes id .baseSpecifier (entry.bases.map spellingOf?)
  if kind = .construct then
    let constructor ← pushConstructor entry
    modify fun state => { state with builder := state.builder.setReferenced id constructor }
  return id

mutual

/-- Add a node with the nodes inside it. -/
def pushNode
    (parent : NodeId) :
    DumpNode → Converting Unit
  | .node entry inner => do
      let id ← pushEntry parent entry inner
      pushNodes id inner

/-- Add nodes in order. -/
def pushNodes
    (parent : NodeId) :
    List DumpNode → Converting Unit
  | [] => return
  | node :: rest => do
      pushNode parent node
      pushNodes parent rest

end

/-- Link a reference to its declaration, which is added if it was never printed. -/
def link
    (reference : OpenReference) :
    Converting Unit := do
  let state ← get
  let target ←
    match state.ids.get? reference.target with
    | some target => pure target
    | none => do
        let target ← push none reference.fallback
        modify fun state => { state with ids := state.ids.insert reference.target target }
        pure target
  modify fun state =>
    { state with builder := state.builder.setReferenced reference.node target }

/-- Link references in the order in which they were printed. -/
def linkAll : List OpenReference → Converting Unit
  | [] => return
  | reference :: rest => do
      link reference
      linkAll rest

/-- Convert the root of a dump with everything below it. -/
def convert
    (root : DumpNode) :
    Converting Unit := do
  let _ ← locateEntry root.entry
  pushNodes TranslationUnit.root root.inner
  linkAll (← get).references.reverse

end DumpConversion

namespace TranslationUnit

/-- The translation unit that a dump describes. -/
def ofDump
    (path : String)
    (root : DumpNode) :
    TranslationUnit :=
  let start : DumpConversion.State := { builder := UnitBuilder.start path }
  ((DumpConversion.convert root).run start).2.builder.finish

/-- Read the text of a dump. -/
def ofDumpText
    (path : String)
    (text : List Char) :
    Except Failure TranslationUnit :=
  match (Json.parse? text).bind DumpNode.ofJson? with
  | none => .error { cause := .malformedJson }
  | some root =>
      if root.entry.kind = DumpEntry.rootKind then .ok (ofDump path root)
      else
        .error (Failure.ofText
          ("expected a " ++ DumpEntry.rootKind ++ ", found `" ++ root.entry.kind ++ "`"))

end TranslationUnit

end BindingStubs
