import BindingStubs.CppType.Spelling
import BindingStubs.Fault
import BindingStubs.Keyed
import BindingStubs.Literal

namespace BindingStubs

/-!
# Registered entities

Modules, classes and enums with their members, as the registrations describe them.  An
entity that is only referred to exists as a placeholder without a declaration site.

Changes to an entity run in a state monad whose failures keep the state, since a refused
change may already have recorded a part of what it was given.
-/

/-- A parameter of a callable. -/
structure Parameter where
  name : String
  type : CppType
  deriving Repr, DecidableEq

/-- The types of a callable; a constructor has no return type. -/
structure Signature where
  returns : Option CppType
  parameters : List Parameter
  spelling : String
  deriving Repr, DecidableEq

/-- One overload of a function, method or constructor. -/
structure Callable where
  signature : Signature
  doc : Option String
  isStatic : Bool
  cppSignature : String
  location : Location
  deriving Repr, DecidableEq

/-- A named constant, whose value may be unknown. -/
structure Constant where
  name : String
  type : CppType
  value : Option Literal
  location : Location
  deriving Repr, DecidableEq

/-- A property; it is read-only while it has no setter type. -/
structure Property where
  name : String
  doc : Option String
  getterType : Option CppType
  setterType : Option CppType
  setterParameter : Option String
  location : Location
  deriving Repr, DecidableEq

/-- What the enumerators of an enum have in common. -/
inductive ValueKind where
  | integer
  | string
  | unspecified
  deriving Repr, DecidableEq

/-- Classes and enums placed in a container, with the site of each placement. -/
abbrev Placements := Keyed Location

/-- A Python module. -/
structure Module where
  cppName : String
  pythonName : String := ""
  doc : Option String := none
  qualifiedName : Option String := none
  innerClasses : Placements := {}
  innerEnums : Placements := {}
  functions : Keyed (List Callable) := {}
  constants : Keyed Constant := {}
  declaredAt : Option Location := none
  imported : Bool := false
  deriving Repr, DecidableEq

/-- A class, known by its shadow key and by its C++ type. -/
structure Class where
  pythonName : String := ""
  shadowKey : String
  cppType : CppType
  parentKey : Option String := none
  doc : Option String := none
  qualifiedName : Option String := none
  innerClasses : Placements := {}
  innerEnums : Placements := {}
  constructors : List Callable := []
  methods : Keyed (List Callable) := {}
  properties : Keyed Property := {}
  constants : Keyed Constant := {}
  implicitSources : List CppType := []
  declaredAt : Option Location := none
  imported : Bool := false
  deriving Repr, DecidableEq

/-- An enum; a value that could not be read is absent. -/
structure Enumeration where
  pythonName : String := ""
  cppName : String
  valueKind : ValueKind := .unspecified
  values : Keyed (Option Literal) := {}
  doc : Option String := none
  qualifiedName : Option String := none
  declaredAt : Option Location := none
  imported : Bool := false
  deriving Repr, DecidableEq

/-- A change of an entity that may be refused after a part of it was made. -/
abbrev Change (Entity Result : Type) := EStateM Fault Entity Result

/-- Append overloads under a name. -/
def appendOverloads
    (groups : Keyed (List Callable))
    (name : String)
    (overloads : List Callable) :
    Keyed (List Callable) :=
  groups.alter name [] (· ++ overloads)

/-- Append a type to a list of distinct types. -/
def insertSource
    (sources : List CppType)
    (source : CppType) :
    List CppType :=
  if sources.contains source then sources else sources ++ [source]

/-- Add a constant whose name is new in its owner. -/
def insertConstant
    (owner : String)
    (constant : Constant) :
    Change (Keyed Constant) Unit := do
  let constants ← get
  match constants.get? constant.name with
  | some existing =>
      throw (.duplicate "constant" (owner ++ "." ++ constant.name)
        existing.location constant.location)
  | none => set (constants.insert constant.name constant)

/-- Place an entity that is not yet placed in its owner. -/
def place
    (kind owner key : String)
    (location : Location) :
    Change Placements Unit := do
  let placed ← get
  match placed.get? key with
  | some first => throw (.duplicate kind (key ++ " in " ++ owner) first location)
  | none => set (placed.insert key location)

namespace Property

/-- Whether the property has no setter. -/
def isReadOnly
    (property : Property) :
    Bool :=
  property.setterType.isNone

/-- Fold a later registration of the same property into this one.  Each half may be given
only once; the earlier documentation wins. -/
def absorb
    (owner : String)
    (incoming : Property) :
    Change Property Unit := do
  let key := owner ++ "." ++ (← get).name
  if incoming.getterType.isSome then
    if (← get).getterType.isSome then
      throw (.duplicate "property getter" key (← get).location incoming.location)
    modify fun property => { property with getterType := incoming.getterType }
  if incoming.setterType.isSome then
    if (← get).setterType.isSome then
      throw (.duplicate "property setter" key (← get).location incoming.location)
    modify fun property =>
      { property with
        setterType := incoming.setterType
        setterParameter := incoming.setterParameter }
  modify fun property =>
    { property with doc := property.doc <|> incoming.doc }

end Property

/-- Run a change on a part of a state, and keep the changed part also when it is refused. -/
def onPart
    {Whole Part Result : Type}
    (part : Whole → Part)
    (update : Whole → Part → Whole)
    (change : Change Part Result) :
    Change Whole Result := fun whole =>
  match change (part whole) with
  | .ok value changed => .ok value (update whole changed)
  | .error fault changed => .error fault (update whole changed)

namespace Module

/-- A module that is only referred to. -/
def placeholder
    (cppName : String) :
    Module :=
  { cppName }

/-- Add an overload of a function. -/
def addFunction
    (name : String)
    (function : Callable) :
    Change Module Unit :=
  modify fun owner =>
    { owner with functions := appendOverloads owner.functions name [function] }

/-- Add a constant. -/
def addConstant
    (constant : Constant) :
    Change Module Unit := do
  onPart constants (fun owner constants => { owner with constants })
    (insertConstant (← get).cppName constant)

/-- Place a class in the module. -/
def addClass
    (key : String)
    (location : Location) :
    Change Module Unit := do
  onPart innerClasses (fun owner innerClasses => { owner with innerClasses })
    (place "module class" (← get).cppName key location)

/-- Place an enum in the module. -/
def addEnum
    (key : String)
    (location : Location) :
    Change Module Unit := do
  onPart innerEnums (fun owner innerEnums => { owner with innerEnums })
    (place "module enum" (← get).cppName key location)

end Module

namespace Class

/-- A class that is only referred to. -/
def placeholder
    (shadowKey : String)
    (cppType : CppType) :
    Class :=
  { shadowKey, cppType }

/-- Add an overload of a method. -/
def addMethod
    (name : String)
    (method : Callable) :
    Change Class Unit :=
  modify fun owner => { owner with methods := appendOverloads owner.methods name [method] }

/-- Add a constructor. -/
def addConstructor
    (constructor : Callable) :
    Change Class Unit :=
  modify fun owner => { owner with constructors := owner.constructors ++ [constructor] }

/-- Add a property or complete an existing one with its other half. -/
def addProperty
    (property : Property) :
    Change Class Unit := do
  let owner ← get
  match owner.properties.get? property.name with
  | some existing =>
      onPart (fun _ => existing)
        (fun owner changed =>
          { owner with properties := owner.properties.insert property.name changed })
        (Property.absorb owner.shadowKey property)
  | none => set { owner with properties := owner.properties.insert property.name property }

/-- Add a constant. -/
def addConstant
    (constant : Constant) :
    Change Class Unit := do
  onPart constants (fun owner constants => { owner with constants })
    (insertConstant (← get).shadowKey constant)

/-- Place a class in the class. -/
def addClass
    (key : String)
    (location : Location) :
    Change Class Unit := do
  onPart innerClasses (fun owner innerClasses => { owner with innerClasses })
    (place "inner class" (← get).shadowKey key location)

/-- Place an enum in the class. -/
def addEnum
    (key : String)
    (location : Location) :
    Change Class Unit := do
  onPart innerEnums (fun owner innerEnums => { owner with innerEnums })
    (place "inner enum" (← get).shadowKey key location)

/-- Accept implicit conversions from a type. -/
def addImplicitSource
    (source : CppType) :
    Change Class Unit :=
  modify fun owner =>
    { owner with implicitSources := insertSource owner.implicitSources source }

/-- Whether the class contributes any member to its rendered body. -/
def hasMembers
    (owner : Class) :
    Bool :=
  !(owner.innerClasses.isEmpty && owner.innerEnums.isEmpty && owner.constructors.isEmpty
    && owner.methods.isEmpty && owner.properties.isEmpty && owner.constants.isEmpty)

end Class

namespace Enumeration

/-- An enum that is only referred to. -/
def placeholder
    (cppName : String) :
    Enumeration :=
  { cppName }

/-- What the known values of an enum have in common. -/
def inferKind
    (values : Keyed (Option Literal)) :
    ValueKind :=
  let known := values.values.filterMap id
  if known.isEmpty then .unspecified
  else if known.all Literal.isInteger then .integer
  else if known.all Literal.isString then .string
  else .unspecified

end Enumeration

end BindingStubs
