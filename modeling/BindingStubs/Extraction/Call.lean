import BindingStubs.Extraction.Dispatcher
import BindingStubs.Extraction.Receiver
import BindingStubs.Model.Registration

namespace BindingStubs

/-!
# Registration calls

Each idiom reads its call and yields the registrations that the call makes.
-/

namespace RegistrationCall

open Shape

/-- The overload that a dispatcher's target gives. -/
def callable
    (unit : TranslationUnit)
    (target : Target)
    (signature : Signature)
    (doc : Option String)
    (isStatic : Bool)
    (call : NodeId) :
    Callable :=
  { signature, doc, isStatic
    cppSignature := target.cppSignature unit
    location := unit.location call }

/-- The arguments of a call whose number is checked. -/
def arguments
    (unit : TranslationUnit)
    (idiom : Idiom)
    (call : NodeId)
    (least most : Nat) :
    Except Fault (List NodeId) := do
  let found := (callParts unit call).arguments
  expectArguments unit idiom.name call found.length least most
  return found

/-- The object of a call. -/
def object
    (unit : TranslationUnit)
    (call : NodeId) :
    Option NodeId :=
  (callParts unit call).receiver

/-- One argument of a call whose number of arguments was checked. -/
def argument
    (found : List NodeId)
    (index : Nat) :
    NodeId :=
  found[index]?.getD TranslationUnit.root

/-- The values of an enum given as a list of name and value pairs. -/
def explicitValuesFrom
    (unit : TranslationUnit)
    (idiom : String) :
    Keyed (Option Literal) → List NodeId → Except Fault (Keyed (Option Literal))
  | values, [] => .ok values
  | values, entry :: rest => do
      let pair := unwrap unit entry
      let isList := unit.kind pair == .initializerList || unit.kind pair == .construct
      let parts := (unit.children pair).filter fun id => unit.kind id != .defaultArgument
      match isList, parts with
      | true, [nameNode, valueNode] =>
          let name ← stringLiteral unit idiom nameNode
          if values.contains name then
            mismatch unit idiom nameNode ("enum value `" ++ name ++ "` listed twice")
          else
            let value ← literal? unit valueNode
            explicitValuesFrom unit idiom (values.insert name value) rest
      | _, _ =>
          mismatch unit idiom pair "each enum value must be a `\x7bname, value\x7d` pair"

/-- The values of an enum given as an argument. -/
def explicitValues
    (unit : TranslationUnit)
    (idiom : String)
    (argument : NodeId) :
    Except Fault (Keyed (Option Literal)) :=
  let list := unwrap unit argument
  if unit.kind list = .initializerList then
    explicitValuesFrom unit idiom {} (unit.children list)
  else
    mismatch unit idiom list
      ("expected a `\x7bname, value\x7d` list, found " ++ (unit.kind list).text)

/-- The value after a value of 128 bits with a sign; the least follows the greatest. -/
def nextValue
    (value : Int) :
    Int :=
  if value + 1 = Width.limit 127 then -(Width.limit 127) else value + 1

/-- The values of enumerators after a previous one: an explicit value where there is one,
else the one after the previous; a value that cannot be read leaves the next unknown. -/
def countValues
    (unit : TranslationUnit) :
    (previous : Option Int) → List NodeId → List (String × Option Int)
  | _, [] => []
  | previous, enumerator :: rest =>
      let value :=
        match unit.value? enumerator with
        | some digits => Text.readInteger? digits.toList
        | none => previous.map nextValue
      (unit.spelling enumerator, value) :: countValues unit value rest

/-- The values of an enum as its declaration gives them, none without a declaration. -/
def declaredValues
    (unit : TranslationUnit)
    (cppName : String) :
    Keyed (Option Literal) :=
  match unit.typeDeclaration? cppName with
  | none => {}
  | some declaration =>
      Keyed.ofList
        ((countValues unit (some (-1)) (unit.childrenOfKind declaration .enumerator)).map
          fun entry => (entry.1, entry.2.map fun value => Literal.integer (Text.ofInt value)))

/-- Declare a module. -/
def declareModule
    (unit : TranslationUnit)
    (call : NodeId) :
    Except Fault (List Registration) := do
  let idiom := Idiom.declareModule
  let found ← arguments unit idiom call 2 2
  let name ← stringLiteral unit idiom.name (argument found 0)
  let doc ← docText unit idiom.name (argument found 1)
  return [.declareModule (Receiver.declaredModuleKey unit call name) name doc
    (unit.location call)]

/-- Declare a class, which may derive from another. -/
def declareClass
    (unit : TranslationUnit)
    (call : NodeId) :
    Except Fault (List Registration) := do
  let idiom := Idiom.declareClass
  let found ← arguments unit idiom call 2 3
  let keys ← classKeys unit idiom.name call
  let name ← stringLiteral unit idiom.name (argument found 0)
  let doc ← docText unit idiom.name (argument found 1)
  match found[2]? with
  | none =>
      return [.declareClass keys.shadowKey keys.cppType name doc none (unit.location call)]
  | some parent =>
      let parentKeys ← classKeys unit idiom.name parent
      return [
        .referToClass parentKeys.shadowKey parentKeys.cppType (unit.location parent),
        .declareClass keys.shadowKey keys.cppType name doc (some parentKeys.shadowKey)
          (unit.location call)]

/-- Declare an enum with given values, or with those of its declaration. -/
def declareEnum
    (unit : TranslationUnit)
    (call : NodeId) :
    Except Fault (List Registration) := do
  let idiom := Idiom.declareEnum
  let found ← arguments unit idiom call 2 3
  let cppName ← enumKey unit idiom.name call
  let name ← stringLiteral unit idiom.name (argument found 0)
  let doc ← docText unit idiom.name (argument found 1)
  let values ←
    match found[2]? with
    | some list => explicitValues unit idiom.name list
    | none => pure (declaredValues unit cppName)
  return [.declareEnum cppName name doc values (unit.location call)]

/-- Add a function to a module. -/
def addFunction
    (unit : TranslationUnit)
    (call : NodeId) :
    Except Fault (List Registration) := do
  let idiom := Idiom.addFunction
  let found ← arguments unit idiom call 3 3
  let moduleKey ← Receiver.moduleOfCall unit idiom.name call (object unit call)
  let name ← stringLiteral unit idiom.name (argument found 0)
  let doc ← docText unit idiom.name (argument found 1)
  let target ← Dispatcher.target unit idiom.name (argument found 2)
  return [.addFunction moduleKey name
    (callable unit target (target.signature unit 0) doc false call)]

/-- Place a class in a module. -/
def addClass
    (unit : TranslationUnit)
    (call : NodeId) :
    Except Fault (List Registration) := do
  let idiom := Idiom.addClass
  let found ← arguments unit idiom call 1 1
  let moduleKey ← Receiver.moduleOfCall unit idiom.name call (object unit call)
  let keys ← classKeys unit idiom.name (argument found 0)
  return [
    .referToClass keys.shadowKey keys.cppType (unit.location call),
    .placeClass (.module moduleKey) keys.shadowKey (unit.location call)]

/-- Place an enum in a module. -/
def addEnum
    (unit : TranslationUnit)
    (call : NodeId) :
    Except Fault (List Registration) := do
  let idiom := Idiom.addEnum
  let found ← arguments unit idiom call 1 1
  let moduleKey ← Receiver.moduleOfCall unit idiom.name call (object unit call)
  let cppName ← enumKey unit idiom.name (argument found 0)
  return [
    .referToEnum cppName,
    .placeEnum (.module moduleKey) cppName (unit.location call)]

/-- Add a constructor to a class. -/
def addConstructor
    (unit : TranslationUnit)
    (call : NodeId) :
    Except Fault (List Registration) := do
  let idiom := Idiom.addConstructor
  let found ← arguments unit idiom call 2 2
  let keys ← Receiver.classOfCall unit idiom.name call (object unit call)
  let doc ← docText unit idiom.name (argument found 0)
  let target ← Dispatcher.target unit idiom.name (argument found 1)
  let signature := { target.signature unit 0 with returns := none }
  let register : Except Fault (List Registration) :=
    return [.addConstructor keys.shadowKey keys.cppType (unit.location call)
      (callable unit target signature doc false call)]
  match target with
  | .call _ _ => register
  | .construct _ => register
  | .read _ | .write _ =>
      mismatch unit idiom.name call
        "constructor dispatcher must construct an object or call a factory"

/-- Whether the class is the second of two operands and not the first. -/
def isReflected
    (parameters : List Parameter)
    (cppType : CppType) :
    Bool :=
  match parameters with
  | [first, second] =>
      second.type.withoutPointers == cppType && first.type.withoutPointers != cppType
  | _ => false

/-- The name and signature of a method whose target is a free function: a binary operator
whose second operand is the class is reflected, and otherwise the first parameter is the
receiver. -/
def freeMethod
    (unit : TranslationUnit)
    (idiom : Idiom)
    (call : NodeId)
    (cppType : CppType)
    (name : String)
    (target : Target) :
    Except Fault (String × Signature) :=
  let parameters := target.parameters unit
  match (Idiom.reflected? name).filter fun _ => isReflected parameters cppType with
  | some reflected =>
      let signature := target.signature unit 0
      .ok (reflected, { signature with parameters := signature.parameters.take 1 })
  | none =>
      if parameters.isEmpty then
        mismatch unit idiom.name call
          "non-member method target must take the receiver as first parameter"
      else .ok (name, target.signature unit 1)

/-- Add a method to a class. -/
def addMethod
    (unit : TranslationUnit)
    (isStatic : Bool)
    (call : NodeId) :
    Except Fault (List Registration) := do
  let idiom := if isStatic then Idiom.addStaticMethod else Idiom.addMethod
  let found ← arguments unit idiom call 3 3
  let keys ← Receiver.classOfCall unit idiom.name call (object unit call)
  let name ← stringLiteral unit idiom.name (argument found 0)
  let doc ← docText unit idiom.name (argument found 1)
  let target ← Dispatcher.target unit idiom.name (argument found 2)
  if let .construct _ := target then
    mismatch unit idiom.name call "method dispatcher must call a function"
  let (methodName, signature) ←
    if isStatic || target.isMember unit then pure (name, target.signature unit 0)
    else freeMethod unit idiom call keys.cppType name target
  return [.addMethod keys.shadowKey keys.cppType (unit.location call) methodName
    (callable unit target signature doc isStatic call)]

/-- The type that a getter argument reads, none for a null pointer. -/
def getterType
    (unit : TranslationUnit)
    (idiom : Idiom)
    (getter : NodeId) :
    Except Fault (Option CppType) := do
  if isNull unit getter then return none
  let target ← Dispatcher.target unit idiom.name getter
  match target with
  | .call _ _ => return target.returnType unit
  | .read _ => return target.returnType unit
  | .construct _ | .write _ =>
      mismatch unit idiom.name getter "getter must read a member or call a function"

/-- The parameter that a setter argument takes, none for a null pointer. -/
def setterParameter
    (unit : TranslationUnit)
    (idiom : Idiom)
    (setter : NodeId) :
    Except Fault (Option Parameter) := do
  if isNull unit setter then return none
  let target ← Dispatcher.target unit idiom.name setter
  let hidden := if target.isMember unit then 0 else 1
  let visible := (target.parameters unit).drop hidden
  let refuse : Except Fault (Option Parameter) :=
    mismatch unit idiom.name setter
      ("setter must take exactly one value, found " ++ Text.ofNat visible.length)
  match target, visible with
  | .construct _, _ => refuse
  | _, [parameter] => return some parameter
  | _, _ => refuse

/-- Add a property to a class. -/
def addProperty
    (unit : TranslationUnit)
    (call : NodeId) :
    Except Fault (List Registration) := do
  let idiom := Idiom.addProperty
  let found ← arguments unit idiom call 3 4
  let keys ← Receiver.classOfCall unit idiom.name call (object unit call)
  let name ← stringLiteral unit idiom.name (argument found 0)
  let doc ← docText unit idiom.name (argument found 1)
  let getter ← getterType unit idiom (argument found 2)
  let setter ←
    match found[3]? with
    | some setter => setterParameter unit idiom setter
    | none => pure none
  if getter.isNone && setter.isNone then
    mismatch unit idiom.name call
      ("property `" ++ name ++ "` has neither getter nor setter")
  return [.addProperty keys.shadowKey keys.cppType (unit.location call)
    { name, doc
      getterType := getter
      setterType := setter.map Parameter.type
      setterParameter := setter.map Parameter.name
      location := unit.location call }]

/-- Add a constant to a module or class. -/
def addStaticConstant
    (unit : TranslationUnit)
    (call : NodeId) :
    Except Fault (List Registration) := do
  let idiom := Idiom.addStaticConstant
  let found ← arguments unit idiom call 2 2
  let name ← stringLiteral unit idiom.name (argument found 0)
  let valueNode := argument found 1
  match expressionType? unit valueNode with
  | none => mismatch unit idiom.name valueNode "constant value has no type"
  | some type =>
      let value ← literal? unit valueNode
      let constant : Constant := { name, type, value, location := unit.location call }
      match ← Receiver.ofCall unit idiom.name call (object unit call) with
      | .module key => return [.addConstant (.module key) constant]
      | .class keys =>
          return [.addConstant (.class keys.shadowKey keys.cppType (unit.location call))
            constant]

/-- Place a class in a class. -/
def addInnerClass
    (unit : TranslationUnit)
    (call : NodeId) :
    Except Fault (List Registration) := do
  let idiom := Idiom.addInnerClass
  let found ← arguments unit idiom call 1 1
  let keys ← Receiver.classOfCall unit idiom.name call (object unit call)
  let inner ← classKeys unit idiom.name (argument found 0)
  return [
    .referToClass inner.shadowKey inner.cppType (unit.location call),
    .placeClass (.class keys.shadowKey keys.cppType (unit.location call)) inner.shadowKey
      (unit.location call)]

/-- Place an enum in a class. -/
def addInnerEnum
    (unit : TranslationUnit)
    (call : NodeId) :
    Except Fault (List Registration) := do
  let idiom := Idiom.addInnerEnum
  let found ← arguments unit idiom call 1 1
  let keys ← Receiver.classOfCall unit idiom.name call (object unit call)
  let cppName ← enumKey unit idiom.name (argument found 0)
  return [
    .referToEnum cppName,
    .placeEnum (.class keys.shadowKey keys.cppType (unit.location call)) cppName
      (unit.location call)]

/-- Let a class accept implicit conversions. -/
def addImplicitConverter
    (unit : TranslationUnit)
    (call : NodeId) :
    Except Fault (List Registration) := do
  let idiom := Idiom.addImplicitConverter
  let found ← arguments unit idiom call 1 1
  let keys ← Receiver.classOfCall unit idiom.name call (object unit call)
  let target ← Dispatcher.target unit idiom.name (argument found 0)
  let parameters :=
    match target with
    | .call _ _ => target.parameters unit
    | .construct _ => target.parameters unit
    | .read _ | .write _ => []
  match parameters with
  | [source] =>
      return [.addImplicitSource keys.shadowKey keys.cppType (unit.location call) source.type]
  | _ =>
      mismatch unit idiom.name call
        ("converter must take exactly one source value, found "
          ++ Text.ofNat parameters.length)

/-- The registrations of a call of an idiom. -/
def registrations
    (unit : TranslationUnit)
    (idiom : Idiom)
    (call : NodeId) :
    Except Fault (List Registration) :=
  match idiom with
  | .declareModule => declareModule unit call
  | .declareClass => declareClass unit call
  | .declareEnum => declareEnum unit call
  | .addFunction => addFunction unit call
  | .addClass => addClass unit call
  | .addEnum => addEnum unit call
  | .addConstructor => addConstructor unit call
  | .addMethod => addMethod unit false call
  | .addStaticMethod => addMethod unit true call
  | .addProperty => addProperty unit call
  | .addStaticConstant => addStaticConstant unit call
  | .addInnerClass => addInnerClass unit call
  | .addInnerEnum => addInnerEnum unit call
  | .addImplicitConverter => addImplicitConverter unit call

end RegistrationCall

end BindingStubs
