import BindingStubs.Model.Registration

namespace BindingStubs

/-!
# Fully-qualified names

Names are assigned from the top: every module of this run is named after the package, and
every class and enum placed in a container is named after the container.  A name that is
already set must equal the one computed, so an entity reached through two containers is
refused, and so is a class that contains itself.
-/

namespace BindingModel

/-- Join a scope and a name with a dot. -/
def qualify
    (scope name : String) :
    String :=
  scope ++ "." ++ name

/-- The full name of a module below an optional package. -/
def qualifyModule
    (package : Option String)
    (name : String) :
    String :=
  match package with
  | some scope => if scope.isEmpty then name else qualify scope name
  | none => name

/-- Fill an empty name or check that a name is the computed one. -/
def assignName
    (kind key computed : String) :
    Change (Option String) Unit := do
  match ← get with
  | none => set (some computed)
  | some existing =>
      if existing = computed then return
      else throw (.containment kind key existing computed)

/-- The fault of a placed entity that is never declared. -/
def neverDeclared
    (kind key scope : String) :
    Fault :=
  .emission (kind ++ " `" ++ key ++ "` added to `" ++ scope ++ "` is never declared")

/-- What naming needs to know about the entities of a kind: the word for the kind, and where an
entity keeps its declaration, its own name and its full name. -/
structure Nameable (Entity : Type) where
  kind : String
  declaredAt : Entity → Option Location
  pythonName : Entity → String
  name : Entity → Option String
  rename : Entity → Option String → Entity
  name_rename : ∀ entity given, name (rename entity given) = given := by intros; rfl
  rename_name : ∀ entity, rename entity (name entity) = entity := by intros; rfl
  rename_rename :
    ∀ entity given other, rename (rename entity given) other = rename entity other := by
    intros; rfl
  declaredAt_rename : ∀ entity given, declaredAt (rename entity given) = declaredAt entity := by
    intros; rfl
  pythonName_rename : ∀ entity given, pythonName (rename entity given) = pythonName entity := by
    intros; rfl

/-- How modules are named. -/
def moduleNaming : Nameable Module where
  kind := "module"
  declaredAt := Module.declaredAt
  pythonName := Module.pythonName
  name := Module.qualifiedName
  rename entity qualifiedName := { entity with qualifiedName }

/-- How classes are named. -/
def classNaming : Nameable Class where
  kind := "class"
  declaredAt := Class.declaredAt
  pythonName := Class.pythonName
  name := Class.qualifiedName
  rename entity qualifiedName := { entity with qualifiedName }

/-- How enums are named. -/
def enumNaming : Nameable Enumeration where
  kind := "enum"
  declaredAt := Enumeration.declaredAt
  pythonName := Enumeration.pythonName
  name := Enumeration.qualifiedName
  rename entity qualifiedName := { entity with qualifiedName }

/-- Name an entity that has to be declared, and return its full name. -/
def nameEntity
    {Entity : Type}
    (naming : Nameable Entity)
    (qualified : String → String)
    (undeclared : Fault)
    (key : String) :
    Change Entity String := do
  let entity ← get
  if (naming.declaredAt entity).isNone then
    throw undeclared
  let computed := qualified (naming.pythonName entity)
  onPart naming.name naming.rename (assignName naming.kind key computed)
  return computed

/-- Name an enum placed in a scope. -/
def nameEnum
    (scope key : String) :
    Registering Unit := do
  let undeclared := neverDeclared enumNaming.kind key scope
  match (← get).enumPositions.get? key with
  | none => throw undeclared
  | some position =>
      let _ ← onEnum position (nameEntity enumNaming (qualify scope) undeclared key)

/-- A named container, with the keys of the classes and enums that are placed in it. -/
structure NamedScope where
  scope : String
  classes : List String
  enums : List String
  deriving Repr, DecidableEq

/-- Name a class placed in a scope, and return the scope of its members. -/
def nameClass
    (scope key : String) :
    Registering NamedScope := do
  let undeclared := neverDeclared classNaming.kind key scope
  match (← get).classPositions.get? key with
  | none => throw undeclared
  | some position =>
      onClass position do
        let computed ← nameEntity classNaming (qualify scope) undeclared key
        let entity ← get
        return { scope := computed
                 classes := entity.innerClasses.keys
                 enums := entity.innerEnums.keys }

/-- Name the enums and classes placed in a scope and everything below them.

`levels` bounds the nesting, and `exhausted` is what is done where it does not suffice.  On a
path of containment no class is entered twice, because a class reached again would need a
longer name than it has; so the number of classes bounds every path. -/
def nameMembers
    (exhausted : String → Registering Unit) :
    (levels : Nat) → NamedScope → Registering Unit
  | 0, named => exhausted named.scope
  | levels + 1, named => do
      forAll (nameEnum named.scope) named.enums
      forAll (fun key => do nameMembers exhausted levels (← nameClass named.scope key))
        named.classes

/-- Name one module and return the scope of its members. -/
def nameModule
    (package : Option String) :
    Change Module NamedScope := do
  let cppName := (← get).cppName
  let undeclared := Fault.emission ("module `" ++ cppName
    ++ "`: members are added but the module is never declared")
  let computed ← nameEntity moduleNaming (qualifyModule package) undeclared cppName
  let entity ← get
  return { scope := computed
           classes := entity.innerClasses.keys
           enums := entity.innerEnums.keys }

/-- The positions of the modules of this run. -/
def localPositions
    (model : BindingModel) :
    List Nat :=
  (model.modules.zipIdx.filter fun entry => !entry.1.imported).map Prod.snd

/-- Name the modules at the given positions, and return the scopes of their members. -/
def nameModules
    (package : Option String) :
    List Nat → Registering (List NamedScope)
  | [] => return []
  | position :: rest => do
      let named ← onModule position (nameModule package)
      return named :: (← nameModules package rest)

/-- Assign the fully-qualified name of everything reachable from the modules of this run,
through at most `levels` levels of containment. -/
def assignNamesWithin
    (exhausted : String → Registering Unit)
    (levels : Nat)
    (package : Option String) :
    Registering Unit := do
  let scopes ← nameModules package (← get).localPositions
  forAll (nameMembers exhausted levels) scopes

/-- Assign the fully-qualified name of everything reachable from the modules of this run. -/
def assignNames
    (package : Option String) :
    Registering Unit := do
  assignNamesWithin (fun scope => throw (.endless scope)) ((← get).classes.length + 1) package

end BindingModel

end BindingStubs
