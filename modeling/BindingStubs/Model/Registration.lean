import BindingStubs.Model.Basic

namespace BindingStubs

/-!
# Registrations

A registration is one change of a binding model.  An entity that a registration refers to
for the first time is created as a placeholder.  Declarations are unique: a second one
for the same key is refused, and so is a class whose two keys disagree with an earlier
registration, or a rule with a known pattern and another rendering.
-/

/-- A computation on a binding model; what it did before a fault remains. -/
abbrev Registering (Result : Type) := Change BindingModel Result

/-- The owner of a constant or of a placed entity. -/
inductive Owner where
  | module (cppName : String)
  | class (shadowKey : String) (cppType : CppType) (location : Location)
  deriving Repr, DecidableEq

/-- One change of a binding model. -/
inductive Registration where
  | referToModule (cppName : String)
  | declareModule (cppName pythonName : String) (doc : Option String) (location : Location)
  | referToClass (shadowKey : String) (cppType : CppType) (location : Location)
  | declareClass (shadowKey : String) (cppType : CppType) (pythonName : String)
      (doc : Option String) (parentKey : Option String) (location : Location)
  | referToEnum (cppName : String)
  | declareEnum (cppName pythonName : String) (doc : Option String)
      (values : Keyed (Option Literal)) (location : Location)
  | addFunction (cppName : String) (name : String) (function : Callable)
  | addMethod (shadowKey : String) (cppType : CppType) (location : Location)
      (name : String) (method : Callable)
  | addConstructor (shadowKey : String) (cppType : CppType) (location : Location)
      (constructor : Callable)
  | addProperty (shadowKey : String) (cppType : CppType) (location : Location)
      (property : Property)
  | addConstant (owner : Owner) (constant : Constant)
  | placeClass (owner : Owner) (key : String) (location : Location)
  | placeEnum (owner : Owner) (key : String) (location : Location)
  | addImplicitSource (shadowKey : String) (cppType : CppType) (location : Location)
      (source : CppType)
  | addRule (rule : TypeRule)
  deriving Repr, DecidableEq

namespace BindingModel

/-- Run an action on each element of a list in order. -/
def forAll
    {Element State : Type}
    (action : Element → Change State Unit) :
    List Element → Change State Unit
  | [] => return
  | element :: rest => do
      action element
      forAll action rest

/-- Run a change on the entity at a position of a list.  Positions come from the lookup
tables, so the entity is there. -/
def changeAt
    {Entity Result : Type}
    (entities : List Entity)
    (position : Nat)
    (rebuild : List Entity → BindingModel)
    (change : Change Entity Result) :
    EStateM.Result Fault BindingModel Result :=
  match entities[position]? with
  | none => .error (.emission "an entity that is not registered") (rebuild entities)
  | some entity =>
      match change entity with
      | .ok value changed => .ok value (rebuild (entities.set position changed))
      | .error fault changed => .error fault (rebuild (entities.set position changed))

/-- Run a change on the module at a position. -/
def onModule
    {Result : Type}
    (position : Nat)
    (change : Change Module Result) :
    Registering Result := fun model =>
  changeAt model.modules position (fun modules => { model with modules }) change

/-- Run a change on the class at a position. -/
def onClass
    {Result : Type}
    (position : Nat)
    (change : Change Class Result) :
    Registering Result := fun model =>
  changeAt model.classes position (fun classes => { model with classes }) change

/-- Run a change on the enum at a position. -/
def onEnum
    {Result : Type}
    (position : Nat)
    (change : Change Enumeration Result) :
    Registering Result := fun model =>
  changeAt model.enums position (fun enums => { model with enums }) change

/-- The position of a module, which is created as a placeholder if it is new. -/
def moduleEntry
    (cppName : String) :
    Registering Nat := do
  let model ← get
  match model.modulePositions.get? cppName with
  | some position => return position
  | none =>
      let position := model.modules.length
      set
        { model with
          modules := model.modules ++ [Module.placeholder cppName]
          modulePositions := model.modulePositions.insert cppName position }
      return position

/-- The position of an enum, which is created as a placeholder if it is new. -/
def enumEntry
    (cppName : String) :
    Registering Nat := do
  let model ← get
  match model.enumPositions.get? cppName with
  | some position => return position
  | none =>
      let position := model.enums.length
      set
        { model with
          enums := model.enums ++ [Enumeration.placeholder cppName]
          enumPositions := model.enumPositions.insert cppName position }
      return position

/-- The fault of a class whose keys are already bound to another class. -/
def classConflict
    (shadowKey : String)
    (cppType : CppType)
    (other : Class)
    (location : Location) :
    Fault :=
  .duplicate "class"
    (cppType.text ++ " (shadow key `" ++ shadowKey ++ "`), already bound to "
      ++ other.cppType.text ++ " (shadow key `" ++ other.shadowKey ++ "`)")
    (other.declaredAt.getD Location.unknown) location

/-- The position of a class, which is created as a placeholder if both its keys are new.
One C++ type under two shadow keys, or the reverse, is refused. -/
def classEntry
    (shadowKey : String)
    (cppType : CppType)
    (location : Location) :
    Registering Nat := do
  let model ← get
  let refuse (position : Nat) : Registering Nat :=
    throw (classConflict shadowKey cppType
      (model.classes[position]?.getD (Class.placeholder shadowKey cppType)) location)
  match model.classPositions.get? shadowKey, model.classTypePosition? cppType with
  | some byKey, some byType => if byKey = byType then return byKey else refuse byKey
  | some byKey, none => refuse byKey
  | none, some byType => refuse byType
  | none, none =>
      let position := model.classes.length
      set
        { model with
          classes := model.classes ++ [Class.placeholder shadowKey cppType]
          classPositions := model.classPositions.insert shadowKey position
          classTypePositions := (cppType, position) :: model.classTypePositions }
      return position

/-- Run a change on a module, which is created if it is new. -/
def inModule
    (cppName : String)
    (change : Change Module Unit) :
    Registering Unit := do
  onModule (← moduleEntry cppName) change

/-- Run a change on an enum, which is created if it is new. -/
def inEnum
    (cppName : String)
    (change : Change Enumeration Unit) :
    Registering Unit := do
  onEnum (← enumEntry cppName) change

/-- Run a change on a class, which is created if it is new. -/
def inClass
    (shadowKey : String)
    (cppType : CppType)
    (location : Location)
    (change : Change Class Unit) :
    Registering Unit := do
  onClass (← classEntry shadowKey cppType location) change

/-- Refuse a second declaration. -/
def requireUndeclared
    {Entity : Type}
    (kind key : String)
    (declaredAt : Option Location)
    (location : Location) :
    Change Entity Unit :=
  match declaredAt with
  | some first => throw (.duplicate kind key first location)
  | none => return

/-- Record the declaration of a module. -/
def declareModule
    (cppName pythonName : String)
    (doc : Option String)
    (location : Location) :
    Registering Unit :=
  inModule cppName do
    requireUndeclared "module" cppName (← get).declaredAt location
    modify fun entity => { entity with pythonName, doc, declaredAt := some location }

/-- Record the declaration of a class. -/
def declareClass
    (shadowKey : String)
    (cppType : CppType)
    (pythonName : String)
    (doc : Option String)
    (parentKey : Option String)
    (location : Location) :
    Registering Unit :=
  inClass shadowKey cppType location do
    requireUndeclared "class" shadowKey (← get).declaredAt location
    modify fun entity =>
      { entity with pythonName, doc, parentKey, declaredAt := some location }

/-- Record the declaration of an enum. -/
def declareEnum
    (cppName pythonName : String)
    (doc : Option String)
    (values : Keyed (Option Literal))
    (location : Location) :
    Registering Unit :=
  inEnum cppName do
    requireUndeclared "enum" cppName (← get).declaredAt location
    modify fun entity =>
      { entity with
        pythonName, doc, values
        valueKind := Enumeration.inferKind values
        declaredAt := some location }

/-- What a bucket says about a new rule: the first rule with the same pattern decides. -/
def findSamePattern?
    (rule : TypeRule)
    (bucket : List TypeRule) :
    Option TypeRule :=
  bucket.find? fun existing =>
    existing.parameters.length == rule.parameters.length
      && existing.canonicalForm.pattern == rule.canonicalForm.pattern

/-- Add a type rule.  A rule that differs from a known one only in parameter names changes
nothing; one with the same pattern and another rendering is refused. -/
def addRule
    (rule : TypeRule) :
    Registering Unit := do
  let model ← get
  let bucket := (model.rules.get? rule.bucketKey).getD []
  match findSamePattern? rule bucket with
  | some existing =>
      if existing.canonicalForm = rule.canonicalForm then return
      else
        throw (.duplicate "type mapping" rule.pattern.text existing.location rule.location)
  | none =>
      set { model with rules := model.rules.insert rule.bucketKey (bucket ++ [rule]) }

end BindingModel

namespace Registration

open BindingModel

/-- Perform a registration. -/
def perform : Registration → Registering Unit
  | .referToModule cppName => discard (moduleEntry cppName)
  | .declareModule cppName pythonName doc location =>
      BindingModel.declareModule cppName pythonName doc location
  | .referToClass shadowKey cppType location => discard (classEntry shadowKey cppType location)
  | .declareClass shadowKey cppType pythonName doc parentKey location =>
      BindingModel.declareClass shadowKey cppType pythonName doc parentKey location
  | .referToEnum cppName => discard (enumEntry cppName)
  | .declareEnum cppName pythonName doc values location =>
      BindingModel.declareEnum cppName pythonName doc values location
  | .addFunction cppName name function => inModule cppName (Module.addFunction name function)
  | .addMethod shadowKey cppType location name method =>
      inClass shadowKey cppType location (Class.addMethod name method)
  | .addConstructor shadowKey cppType location constructor =>
      inClass shadowKey cppType location (Class.addConstructor constructor)
  | .addProperty shadowKey cppType location property =>
      inClass shadowKey cppType location (Class.addProperty property)
  | .addConstant (.module cppName) constant => inModule cppName (Module.addConstant constant)
  | .addConstant (.class shadowKey cppType location) constant =>
      inClass shadowKey cppType location (Class.addConstant constant)
  | .placeClass (.module cppName) key placedAt => inModule cppName (Module.addClass key placedAt)
  | .placeClass (.class shadowKey cppType location) key placedAt =>
      inClass shadowKey cppType location (Class.addClass key placedAt)
  | .placeEnum (.module cppName) key placedAt => inModule cppName (Module.addEnum key placedAt)
  | .placeEnum (.class shadowKey cppType location) key placedAt =>
      inClass shadowKey cppType location (Class.addEnum key placedAt)
  | .addImplicitSource shadowKey cppType location source =>
      inClass shadowKey cppType location (Class.addImplicitSource source)
  | .addRule rule => BindingModel.addRule rule

/-- Perform registrations in order, up to the first fault. -/
def performAll : List Registration → Registering Unit
  | [] => return
  | registration :: rest => do
      registration.perform
      performAll rest

end Registration

end BindingStubs
