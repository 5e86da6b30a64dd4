import BindingStubs.Resolution.Resolver
import BindingStubs.Stub.Line
import BindingStubs.Stub.ParameterName

namespace BindingStubs

/-!
# Rendering modules

A module is rendered in the order of discovery: its enums, its classes, its constants and
its functions, separated by blank lines.  Type references are resolved relative to the
module; what they need goes into the header of the stub.
-/

/-- The rendered stub of a module. -/
structure Stub where
  module : String
  text : String
  deriving Repr, DecidableEq

namespace Rendering

/-- Methods that compare two objects; they take any other object and return a Boolean. -/
def richComparisons : List String :=
  ["__eq__", "__ne__", "__lt__", "__le__", "__gt__", "__ge__"]

/-- Render each element of a list and join the lines. -/
def renderEach
    {Element : Type}
    (render : Element → Resolving (List StubLine)) :
    List Element → Resolving (List StubLine)
  | [] => return []
  | element :: rest => do
      let first ← render element
      return first ++ (← renderEach render rest)

/-- The lines of a docstring in a body. -/
def docstring
    (depth : Nat)
    (doc : String) :
    List StubLine :=
  (docstringLines doc).map fun text => { role := .body, depth, text }

/-- The text of an optional literal. -/
def literalText : Option Literal → String
  | some value => value.render
  | none => "..."

/-- An enumerator with its value. -/
def enumerator
    (depth : Nat)
    (entry : String × Option Literal) :
    StubLine :=
  { role := .body, depth, text := entry.1 ++ " = " ++ literalText entry.2 }

/-- The class that an enum derives from. -/
def enumBase : ValueKind → String
  | .integer => "enum.IntEnum"
  | .string => "enum.Enum"
  | .unspecified => "enum.Enum"

/-- The body of an enum. -/
def enumBody
    (depth : Nat)
    (entity : Enumeration) :
    List StubLine :=
  let doc := (entity.doc.map (docstring depth)).getD []
  let filler : List StubLine :=
    if entity.values.isEmpty && entity.doc.isNone then
      [{ role := .body, depth, text := "..." }]
    else []
  doc ++ filler ++ entity.values.entries.map (enumerator depth)

/-- Render an enum. -/
def renderEnum
    (model : BindingModel)
    (depth : Nat)
    (key : String) :
    Resolving (List StubLine) := do
  match (model.enum? key).filter fun entity => entity.declaredAt.isSome with
  | none => throw (.emission ("enum `" ++ key ++ "` is never declared"))
  | some entity =>
      return {
        role := .enumHeader
        depth
        text := "class " ++ entity.pythonName ++ "(" ++ enumBase entity.valueKind ++ "):"
      } :: enumBody (depth + 1) entity

/-- Render a constant. -/
def renderConstant
    (context : ResolutionScope)
    (depth : Nat)
    (constant : Constant) :
    Resolving (List StubLine) := do
  let type ← Resolution.resolve context constant.type
  return [{
    role := .constant
    depth
    text := constant.name ++ ": Final[" ++ type ++ "] = " ++ literalText constant.value }]

/-- Render the type of a parameter; a class that accepts implicit conversions also takes
their sources. -/
def parameterType
    (context : ResolutionScope)
    (type : CppType) :
    Resolving String := do
  let rendered ← Resolution.resolve context type
  match context.model.classForType? type with
  | none => return rendered
  | some entity =>
      if entity.implicitSources.isEmpty then return rendered
      let sources ← Resolution.resolveAll (Resolution.resolve context) entity.implicitSources
      return String.intercalate " | " (sources.foldl Resolution.appendNew [rendered])

/-- Render parameters with their types. -/
def renderParameters
    (context : ResolutionScope)
    (hasReceiver : Bool)
    (parameters : List Parameter) :
    Resolving (List String) := do
  let names := ParameterName.chooseAll hasReceiver (parameters.map Parameter.name)
  let types ←
    Resolution.resolveAll (parameterType context) (parameters.map Parameter.type)
  return (names.zip types).map fun entry => entry.1 ++ ": " ++ entry.2

/-- The lines that define a callable; all its parameters are positional. -/
def definition
    (depth : Nat)
    (name : String)
    (items : List String)
    (returns : String)
    (doc : Option String) :
    List StubLine :=
  let list := if items.isEmpty then "" else String.intercalate ", " items ++ ", /"
  let head := "def " ++ name ++ "(" ++ list ++ ") -> " ++ returns ++ ":"
  match doc with
  | some doc => { role := .callableHeader, depth, text := head } :: docstring (depth + 1) doc
  | none => [{ role := .callable, depth, text := head ++ " ..." }]

/-- Render a property with its setter. -/
def renderProperty
    (context : ResolutionScope)
    (depth : Nat)
    (owner : Class)
    (property : Property) :
    Resolving (List StubLine) := do
  match property.getterType with
  | none =>
      throw (.emission ("property `" ++ owner.pythonName ++ "." ++ property.name
        ++ "`: a setter is registered but no getter"))
  | some getterType =>
      let returns ← Resolution.resolve context getterType
      let getter :=
        { role := .mark, depth, text := "@property" }
          :: definition depth property.name ["self"] returns property.doc
      match property.setterType with
      | none => return getter
      | some setterType =>
          let name :=
            match property.setterParameter with
            | some name => if name.isEmpty then "value" else name
            | none => "value"
          let parameters ← renderParameters context true [{ name, type := setterType }]
          return getter
            ++ { role := .mark, depth, text := "@" ++ property.name ++ ".setter" }
              :: definition depth property.name ("self" :: parameters) "None" none

/-- Render a rich comparison with the first documentation given for it. -/
def richComparison
    (depth : Nat)
    (name : String)
    (overloads : List Callable) :
    List StubLine :=
  definition depth name ["self", "other"] "bool" (overloads.findSome? Callable.doc)

/-- Render one overload, marked as such when it is one of several. -/
def renderOverload
    (context : ResolutionScope)
    (depth : Nat)
    (name : String)
    (inClass isGrouped : Bool)
    (overload : Callable) :
    Resolving (List StubLine) := do
  let hasReceiver := inClass && !overload.isStatic
  let parameters ← renderParameters context hasReceiver overload.signature.parameters
  let returns ←
    match overload.signature.returns with
    | some type => Resolution.resolve context type
    | none => pure "None"
  let groupMark : List StubLine :=
    if isGrouped then [{ role := .overloadMark, depth, text := "@overload" }] else []
  let staticMark : List StubLine :=
    if inClass && overload.isStatic then [{ role := .mark, depth, text := "@staticmethod" }]
    else []
  let items := if hasReceiver then "self" :: parameters else parameters
  return groupMark ++ staticMark ++ definition depth name items returns overload.doc

/-- Render all overloads of a name. -/
def renderOverloads
    (context : ResolutionScope)
    (depth : Nat)
    (inClass : Bool)
    (name : String)
    (overloads : List Callable) :
    Resolving (List StubLine) :=
  renderEach (renderOverload context depth name inClass (1 < overloads.length)) overloads

/-- Render the overloads of a method. -/
def renderMethod
    (context : ResolutionScope)
    (depth : Nat)
    (entry : String × List Callable) :
    Resolving (List StubLine) :=
  if richComparisons.contains entry.1 then return richComparison depth entry.1 entry.2
  else renderOverloads context depth true entry.1 entry.2

/-- The name of the base class of a class, if that is declared. -/
def baseName?
    (context : ResolutionScope)
    (entity : Class) :
    Resolving (Option String) :=
  match entity.parentKey with
  | none => return none
  | some parentKey =>
      if ((context.model.class? parentKey).bind Class.declaredAt).isSome then
        Resolution.className? context parentKey
      else return none

/-- Render a class and everything in it.

`levels` bounds the nesting, and `exhausted` is what is done where it does not suffice.  Once
names are assigned no class lies inside itself, so the number of classes bounds it. -/
def renderClass
    (context : ResolutionScope)
    (exhausted : String → Resolving (List StubLine)) :
    (levels depth : Nat) → (key : String) → Resolving (List StubLine)
  | 0, _, key => exhausted key
  | levels + 1, depth, key => do
      match (context.model.class? key).filter fun entity => entity.declaredAt.isSome with
      | none => throw (.emission ("class `" ++ key ++ "` is never declared"))
      | some entity =>
          let base ← baseName? context entity
          let header :=
            match base with
            | some name => "class " ++ entity.pythonName ++ "(" ++ name ++ "):"
            | none => "class " ++ entity.pythonName ++ ":"
          let inside := depth + 1
          let doc := (entity.doc.map (docstring inside)).getD []
          let filler : List StubLine :=
            if entity.hasMembers then [] else [{ role := .body, depth := inside, text := "..." }]
          let enums ← renderEach (renderEnum context.model inside) entity.innerEnums.keys
          let classes ←
            renderEach (renderClass context exhausted levels inside) entity.innerClasses.keys
          let constants ← renderEach (renderConstant context inside) entity.constants.values
          let constructors ←
            renderOverloads context inside true "__init__" entity.constructors
          let properties ←
            renderEach (renderProperty context inside entity) entity.properties.values
          let methods ← renderEach (renderMethod context inside) entity.methods.entries
          return { role := .classHeader, depth, text := header } :: doc ++ filler ++ enums
            ++ classes ++ constants ++ constructors ++ properties ++ methods

/-- Append a part of a module behind a blank line, unless there is one already or nothing
precedes it. -/
def appendPart
    (lines part : List StubLine) :
    List StubLine :=
  match lines.getLast? with
  | some last =>
      if last.render.isEmpty then lines ++ part
      else lines ++ { role := .separator, depth := 0, text := "" } :: part
  | none => part

/-- Render each element as a part of its own. -/
def renderParts
    {Element : Type}
    (render : Element → Resolving (List StubLine)) :
    List Element → Resolving (List (List StubLine))
  | [] => return []
  | element :: rest => do
      let first ← render element
      return first :: (← renderParts render rest)

/-- Render the parts of a module. -/
def renderBody
    (context : ResolutionScope)
    (exhausted : String → Resolving (List StubLine))
    (levels : Nat)
    (entity : Module) :
    Resolving (List StubLine) := do
  let enums ← renderParts (renderEnum context.model 0) entity.innerEnums.keys
  let classes ← renderParts (renderClass context exhausted levels 0) entity.innerClasses.keys
  let constants ← renderEach (renderConstant context 0) entity.constants.values
  let functions ←
    renderParts (fun entry => renderOverloads context 0 false entry.1 entry.2)
      entity.functions.entries
  let constantPart := if entity.constants.isEmpty then [] else [constants]
  return (enums ++ classes ++ constantPart ++ functions).foldl appendPart []

/-- The imports that the roles of the lines call for. -/
def roleImports
    (lines : List StubLine) :
    List String :=
  let uses (role : LineRole) := lines.any fun line => line.role == role
  let enumImport := if uses .enumHeader then ["import enum"] else []
  let typing :=
    (if uses .constant then ["Final"] else [])
      ++ (if uses .overloadMark then ["overload"] else [])
  let typingImport :=
    if typing.isEmpty then []
    else ["from typing import " ++ String.intercalate ", " typing]
  enumImport ++ typingImport

/-- The lines above the body: documentation, then imports and declarations, each block
with a blank line behind it. -/
def headerLines
    (doc : Option String)
    (imports : List String) :
    List String :=
  let docBlock := (doc.map fun text => docstringLines text ++ [""]).getD []
  let importBlock := if imports.isEmpty then [] else imports ++ [""]
  docBlock ++ importBlock

/-- The text of a stub. -/
def stubText
    (doc : Option String)
    (prelude : List String)
    (lines : List StubLine) :
    String :=
  let header := headerLines doc (roleImports lines ++ prelude)
  let body := (lines.map StubLine.render).dropWhile String.isEmpty
  let headerText := String.intercalate "\n" header ++ (if header.isEmpty then "" else "\n")
  let text := headerText ++ String.intercalate "\n" body
  if text.toList.getLast? == some '\n' then text else text ++ "\n"

/-- Render a module through at most `levels` levels of containment. -/
def renderModuleWithin
    (exhausted : String → Resolving (List StubLine))
    (levels : Nat)
    (model : BindingModel)
    (entity : Module) :
    Except Fault Stub :=
  match entity.qualifiedName with
  | none =>
      .error (.emission ("module `" ++ entity.cppName ++ "` has no fully-qualified name"))
  | some name =>
      match renderBody { model, scope := some name } exhausted levels entity [] with
      | .ok lines prelude => .ok { module := name, text := stubText entity.doc prelude lines }
      | .error fault _ => .error fault

/-- Render a module. -/
def renderModule
    (model : BindingModel)
    (entity : Module) :
    Except Fault Stub :=
  renderModuleWithin (fun key => throw (.endless key)) (model.classes.length + 1) model entity

end Rendering

end BindingStubs
