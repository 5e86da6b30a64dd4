import BindingStubs.Model.Registration

namespace BindingStubs

/-!
# Merging binding models

A model is merged into another entity by entity, in the order of discovery.  Declarations
must be unique across both; overloads, constructors and other additions are appended.
Merging stops at the first fault and keeps what it has merged so far.
-/

namespace BindingModel

/-- Append all overload groups of another container. -/
def appendGroups
    (groups incoming : Keyed (List Callable)) :
    Keyed (List Callable) :=
  incoming.entries.foldl (fun merged entry => appendOverloads merged entry.1 entry.2) groups

end BindingModel

open BindingModel

/-- Take over everything that another description of the module says. -/
def Module.absorb
    (incoming : Module) :
    Change Module Unit := do
  if let some declaredAt := incoming.declaredAt then
    requireUndeclared "module" incoming.cppName (← get).declaredAt declaredAt
    modify fun entity =>
      { entity with
        pythonName := incoming.pythonName
        doc := incoming.doc
        declaredAt := some declaredAt
        qualifiedName := incoming.qualifiedName }
  modify fun entity => { entity with imported := entity.imported || incoming.imported }
  forAll (fun entry => Module.addClass entry.1 entry.2) incoming.innerClasses.entries
  forAll (fun entry => Module.addEnum entry.1 entry.2) incoming.innerEnums.entries
  modify fun entity =>
    { entity with functions := appendGroups entity.functions incoming.functions }
  forAll Module.addConstant incoming.constants.values

/-- Take over everything that another description of the class says. -/
def Class.absorb
    (incoming : Class) :
    Change Class Unit := do
  if let some declaredAt := incoming.declaredAt then
    requireUndeclared "class" incoming.shadowKey (← get).declaredAt declaredAt
    modify fun entity =>
      { entity with
        pythonName := incoming.pythonName
        doc := incoming.doc
        parentKey := incoming.parentKey
        declaredAt := some declaredAt
        qualifiedName := incoming.qualifiedName }
  modify fun entity => { entity with imported := entity.imported || incoming.imported }
  forAll (fun entry => Class.addClass entry.1 entry.2) incoming.innerClasses.entries
  forAll (fun entry => Class.addEnum entry.1 entry.2) incoming.innerEnums.entries
  modify fun entity =>
    { entity with
      constructors := entity.constructors ++ incoming.constructors
      methods := appendGroups entity.methods incoming.methods }
  forAll Class.addProperty incoming.properties.values
  forAll Class.addConstant incoming.constants.values
  forAll Class.addImplicitSource incoming.implicitSources

/-- Take over everything that another description of the enum says. -/
def Enumeration.absorb
    (incoming : Enumeration) :
    Change Enumeration Unit := do
  if let some declaredAt := incoming.declaredAt then
    requireUndeclared "enum" incoming.cppName (← get).declaredAt declaredAt
    modify fun entity =>
      { entity with
        pythonName := incoming.pythonName
        doc := incoming.doc
        values := incoming.values
        valueKind := incoming.valueKind
        declaredAt := some declaredAt
        qualifiedName := incoming.qualifiedName }
  modify fun entity => { entity with imported := entity.imported || incoming.imported }

namespace BindingModel

/-- Merge a module into the module with the same name. -/
def mergeModule
    (incoming : Module) :
    Registering Unit :=
  inModule incoming.cppName incoming.absorb

/-- Merge a class into the class with the same keys. -/
def mergeClass
    (incoming : Class) :
    Registering Unit :=
  inClass incoming.shadowKey incoming.cppType (incoming.declaredAt.getD Location.unknown)
    incoming.absorb

/-- Merge an enum into the enum with the same name. -/
def mergeEnum
    (incoming : Enumeration) :
    Registering Unit :=
  inEnum incoming.cppName incoming.absorb

/-- Merge a whole model. -/
def merge
    (incoming : BindingModel) :
    Registering Unit := do
  forAll mergeModule incoming.modules
  forAll mergeClass incoming.classes
  forAll mergeEnum incoming.enums
  forAll addRule incoming.allRules

end BindingModel

end BindingStubs
