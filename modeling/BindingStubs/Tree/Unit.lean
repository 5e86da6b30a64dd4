import BindingStubs.CppType.FunctionType
import BindingStubs.Keyed
import BindingStubs.Location
import BindingStubs.Tree.Kind

namespace BindingStubs

/-!
# Translation units

The syntax tree of a translation unit is an array of nodes that refer to each other by
position.  Node zero is the root.  A node without a parent is only reachable as the target
of a reference.  Records and enums can be looked up by their qualified name.
-/

/-- The position of a node. -/
abbrev NodeId := Nat

/-- What is known of a node apart from its place in the tree. -/
structure NodeSpec where
  kind : NodeKind := .other
  spelling : String := ""
  type : Option String := none
  resultType : Option String := none
  location : Location := {}
  value : Option String := none
  isStatic : Bool := false
  deriving Repr, DecidableEq, Inhabited

/-- A node of a syntax tree. -/
structure Node extends NodeSpec where
  parent : Option NodeId := none
  children : List NodeId := []
  referenced : Option NodeId := none
  deriving Repr, DecidableEq, Inhabited

/-- A parsed translation unit. -/
structure TranslationUnit where
  path : String
  nodes : Array Node
  typeDeclarations : Keyed NodeId := {}
  deriving Repr, DecidableEq

namespace TranslationUnit

/-- The root of the tree. -/
def root : NodeId := 0

/-- The node at a position. -/
def node
    (unit : TranslationUnit)
    (id : NodeId) :
    Node :=
  unit.nodes[id]?.getD {}

/-- The kind of a node. -/
def kind
    (unit : TranslationUnit)
    (id : NodeId) :
    NodeKind :=
  (unit.node id).kind

/-- The spelling of a node. -/
def spelling
    (unit : TranslationUnit)
    (id : NodeId) :
    String :=
  (unit.node id).spelling

/-- The location of a node. -/
def location
    (unit : TranslationUnit)
    (id : NodeId) :
    Location :=
  (unit.node id).location

/-- The value of a literal or of an evaluated enumerator. -/
def value?
    (unit : TranslationUnit)
    (id : NodeId) :
    Option String :=
  (unit.node id).value

/-- The type of a node as it is spelled. -/
def typeSpelling?
    (unit : TranslationUnit)
    (id : NodeId) :
    Option String :=
  (unit.node id).type

/-- The type of a node. -/
def type?
    (unit : TranslationUnit)
    (id : NodeId) :
    Option CppType :=
  (unit.typeSpelling? id).map CppType.ofString

/-- The declaration that a reference or call refers to. -/
def referenced?
    (unit : TranslationUnit)
    (id : NodeId) :
    Option NodeId :=
  (unit.node id).referenced

/-- The children of a node in order. -/
def children
    (unit : TranslationUnit)
    (id : NodeId) :
    List NodeId :=
  (unit.node id).children

/-- One child of a node. -/
def child?
    (unit : TranslationUnit)
    (id : NodeId)
    (index : Nat) :
    Option NodeId :=
  (unit.children id)[index]?

/-- The children of a node that have a kind. -/
def childrenOfKind
    (unit : TranslationUnit)
    (id : NodeId)
    (kind : NodeKind) :
    List NodeId :=
  (unit.children id).filter fun child => unit.kind child == kind

/-- The parents above a node, nearest first, up to a number of them. -/
def ancestorsWithin
    (unit : TranslationUnit) :
    (levels : Nat) → NodeId → List NodeId
  | 0, _ => []
  | levels + 1, id =>
      match (unit.node id).parent with
      | some parent => parent :: unit.ancestorsWithin levels parent
      | none => []

/-- The parents above a node, nearest first.  A parent precedes its children in the array,
so the position of a node bounds their number. -/
def ancestors
    (unit : TranslationUnit)
    (id : NodeId) :
    List NodeId :=
  unit.ancestorsWithin id id

/-- The name by which a node takes part in qualified names. -/
def scopeName?
    (unit : TranslationUnit)
    (id : NodeId) :
    Option String :=
  match unit.kind id with
  | .nameSpace =>
      if (unit.spelling id).isEmpty then some "(anonymous namespace)"
      else some (unit.spelling id)
  | .structDeclaration | .classDeclaration | .partialSpecialization => some (unit.spelling id)
  | _ => none

/-- The name of a node with the namespaces and records that enclose it. -/
def qualifiedName
    (unit : TranslationUnit)
    (id : NodeId) :
    String :=
  String.intercalate "::"
    (((unit.ancestors id).filterMap unit.scopeName?).reverse ++ [unit.spelling id])

/-- The declaration of a record or enum with a qualified name. -/
def typeDeclaration?
    (unit : TranslationUnit)
    (name : String) :
    Option NodeId :=
  unit.typeDeclarations.get? name

end TranslationUnit

/-- A translation unit under construction. -/
structure UnitBuilder where
  path : String
  nodes : Array Node
  deriving Repr, DecidableEq

namespace UnitBuilder

/-- A unit with nothing below its root. -/
def start
    (path : String) :
    UnitBuilder :=
  { path, nodes := #[{ kind := .translationUnit, spelling := path }] }

/-- The node for a specification: a callable without a result type takes it from its type. -/
def nodeOf
    (parent : Option NodeId)
    (spec : NodeSpec) :
    Node :=
  let resultType :=
    match spec.resultType, spec.type with
    | some result, _ => some result
    | none, some type =>
        if spec.kind.isFunctionLike then
          (FunctionType.split? type.toList).map fun function => String.ofList function.returns
        else none
    | none, none => none
  { spec with resultType, parent }

/-- Add a node below a parent, or detached without one. -/
def push
    (builder : UnitBuilder)
    (parent : Option NodeId)
    (spec : NodeSpec) :
    UnitBuilder :=
  let id := builder.nodes.size
  let extended := builder.nodes.push (nodeOf parent spec)
  match parent with
  | none => { builder with nodes := extended }
  | some parent =>
      { builder with
        nodes := extended.modify parent fun node =>
          { node with children := node.children ++ [id] } }

/-- The position that the next node will have. -/
def nextId
    (builder : UnitBuilder) :
    NodeId :=
  builder.nodes.size

/-- Let a node refer to another. -/
def setReferenced
    (builder : UnitBuilder)
    (id target : NodeId) :
    UnitBuilder :=
  { builder with
    nodes := builder.nodes.modify id fun node => { node with referenced := some target } }

/-- Enter a node into the table of type declarations.  A definition wins over the
declarations without members before it. -/
def indexDeclaration
    (unit : TranslationUnit)
    (table : Keyed NodeId)
    (id : NodeId) :
    Keyed NodeId :=
  let kind := unit.kind id
  if kind.isRecord || kind == .enumDeclaration then
    let name := unit.qualifiedName id
    let hasMembers (declaration : NodeId) := !(unit.children declaration).isEmpty
    match table.get? name with
    | some existing =>
        if hasMembers existing || !hasMembers id then table else table.insert name id
    | none => table.insert name id
  else table

/-- Finish a unit by indexing its type declarations. -/
def finish
    (builder : UnitBuilder) :
    TranslationUnit :=
  let unit : TranslationUnit := { path := builder.path, nodes := builder.nodes }
  { unit with
    typeDeclarations := (List.range unit.nodes.size).foldl (indexDeclaration unit) {} }

end UnitBuilder

end BindingStubs
