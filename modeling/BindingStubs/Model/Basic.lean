import BindingStubs.Model.Definitions
import BindingStubs.Model.Rule

namespace BindingStubs

/-!
# The binding model

A binding model holds everything that registrations expose.  Modules, classes and enums
live in lists in the order of their discovery; containers and subclasses refer to other
entities by key.  Lookup tables lead from keys to positions.  Classes have two keys, the
shadow key that registrations dispatch on and the C++ type.
-/

/-- Modules, classes, enums and type rules, with tables from keys to positions. -/
structure BindingModel where
  modules : List Module := []
  classes : List Class := []
  enums : List Enumeration := []
  rules : Keyed (List TypeRule) := {}
  modulePositions : Keyed Nat := {}
  classPositions : Keyed Nat := {}
  classTypePositions : List (CppType × Nat) := []
  enumPositions : Keyed Nat := {}
  deriving Repr, DecidableEq

namespace BindingModel

/-- The model without registrations. -/
def empty : BindingModel := {}

instance : Inhabited BindingModel := ⟨empty⟩

/-- Whether nothing is registered. -/
def isEmpty
    (model : BindingModel) :
    Bool :=
  model.modules.isEmpty && model.classes.isEmpty && model.enums.isEmpty && model.rules.isEmpty

/-- All type rules, bucket by bucket. -/
def allRules
    (model : BindingModel) :
    List TypeRule :=
  model.rules.values.flatten

/-- The rules that may match a type of the given name, wildcard rules last. -/
def rulesFor
    (model : BindingModel)
    (name : String) :
    List TypeRule :=
  (model.rules.get? name).getD [] ++ (model.rules.get? TypeRule.wildcardKey).getD []

/-- The position of each entity of a list under its key; of two with one key the later. -/
def positionsBy
    {Entity : Type}
    (key : Entity → String)
    (entities : List Entity) :
    Keyed Nat :=
  Keyed.ofList (entities.zipIdx.map fun entry => (key entry.1, entry.2))

/-- The position of each class under its C++ type; of two with one type the later. -/
def positionsByType
    (classes : List Class) :
    List (CppType × Nat) :=
  classes.zipIdx.foldl (fun table entry => (entry.1.cppType, entry.2) :: table) []

/-- Rebuild the lookup tables. -/
def reindex
    (model : BindingModel) :
    BindingModel :=
  { model with
    modulePositions := positionsBy Module.cppName model.modules
    classPositions := positionsBy Class.shadowKey model.classes
    classTypePositions := positionsByType model.classes
    enumPositions := positionsBy Enumeration.cppName model.enums }

/-- Flag every entity as coming from an earlier run. -/
def markImported
    (model : BindingModel) :
    BindingModel :=
  { model with
    modules := model.modules.map fun entity => { entity with imported := true }
    classes := model.classes.map fun entity => { entity with imported := true }
    enums := model.enums.map fun entity => { entity with imported := true } }

/-- Drop every entity that comes from an earlier run. -/
def retainLocal
    (model : BindingModel) :
    BindingModel :=
  reindex
    { model with
      modules := model.modules.filter fun entity => !entity.imported
      classes := model.classes.filter fun entity => !entity.imported
      enums := model.enums.filter fun entity => !entity.imported }

/-- The module with a C++ name. -/
def module?
    (model : BindingModel)
    (cppName : String) :
    Option Module :=
  (model.modulePositions.get? cppName).bind fun position => model.modules[position]?

/-- The class with a shadow key. -/
def class?
    (model : BindingModel)
    (shadowKey : String) :
    Option Class :=
  (model.classPositions.get? shadowKey).bind fun position => model.classes[position]?

/-- The position of the class of a C++ type. -/
def classTypePosition?
    (model : BindingModel)
    (cppType : CppType) :
    Option Nat :=
  model.classTypePositions.lookup cppType

/-- The class of a C++ type. -/
def classForType?
    (model : BindingModel)
    (cppType : CppType) :
    Option Class :=
  (model.classTypePosition? cppType).bind fun position => model.classes[position]?

/-- The enum with a C++ name. -/
def enum?
    (model : BindingModel)
    (cppName : String) :
    Option Enumeration :=
  (model.enumPositions.get? cppName).bind fun position => model.enums[position]?

end BindingModel

end BindingStubs
