import BindingStubs.Extraction.Shape
import BindingStubs.Model.Definitions

namespace BindingStubs

/-!
# Dispatchers

A dispatcher is the lambda or function that a registration hands to the embedding layer.
Its own signature is an adapter; parameter and return types come from the one expression
that its body evaluates, the target.
-/

/-- What a dispatcher ends up doing. -/
inductive Target where
  /-- Calls a function or method; the call expression is absent for a plain reference. -/
  | call (declaration : NodeId) (site : Option NodeId)
  /-- Constructs an object. -/
  | construct (declaration : NodeId)
  /-- Reads a data member. -/
  | read (field : NodeId)
  /-- Assigns a data member. -/
  | write (field : NodeId)
  deriving Repr, DecidableEq

namespace Target

/-- The declaration that the target is about. -/
def declaration : Target → NodeId
  | .call declaration _ => declaration
  | .construct declaration => declaration
  | .read field => field
  | .write field => field

/-- Whether the target takes its receiver implicitly. -/
def isMember
    (unit : TranslationUnit) :
    Target → Bool
  | .call declaration _ =>
      unit.kind declaration == .method && !(unit.node declaration).isStatic
  | .construct _ => false
  | .read _ => true
  | .write _ => true

/-- The type of a value that has none. -/
def objectType : CppType := .plain "object"

/-- The type of something that returns nothing. -/
def voidType : CppType := .plain "void"

/-- The parameters of a callable, from its parameter nodes or else from its type. -/
def declaredParameters
    (unit : TranslationUnit)
    (declaration : NodeId) :
    List Parameter :=
  match unit.childrenOfKind declaration .parameter with
  | [] =>
      match (unit.typeSpelling? declaration).bind fun type =>
          FunctionType.split? type.toList with
      | some function =>
          function.parameters.map fun spelling =>
            { name := "", type := CppType.parse spelling }
      | none => []
  | nodes =>
      nodes.map fun id =>
        { name := unit.spelling id, type := (unit.type? id).getD objectType }

/-- The parameters that the target declares, the receiver of a free function included. -/
def parameters
    (unit : TranslationUnit) :
    Target → List Parameter
  | .call declaration _ => declaredParameters unit declaration
  | .construct declaration => declaredParameters unit declaration
  | .read _ => []
  | .write field => [{ name := "value", type := (unit.type? field).getD objectType }]

/-- The type that the target returns; a construction returns none. -/
def returnType
    (unit : TranslationUnit) :
    Target → Option CppType
  | .call declaration site =>
      match site.bind unit.type? with
      | some type => some type
      | none =>
          match (unit.node declaration).resultType with
          | some spelling => some (CppType.ofString spelling)
          | none => some voidType
  | .construct _ => none
  | .read field => unit.type? field
  | .write _ => some voidType

/-- The signature with the first `hidden` parameters left out. -/
def signature
    (unit : TranslationUnit)
    (target : Target)
    (hidden : Nat) :
    Signature :=
  { returns := target.returnType unit
    parameters := (target.parameters unit).drop hidden
    spelling := (unit.typeSpelling? target.declaration).getD "" }

/-- The qualified name and the type of the target. -/
def cppSignature
    (unit : TranslationUnit)
    (target : Target) :
    String :=
  let name := unit.qualifiedName target.declaration
  match unit.typeSpelling? target.declaration with
  | some type => name ++ ": " ++ type
  | none => name

end Target

namespace Dispatcher

open Shape

/-- The target of a reference to a function. -/
def ofReference
    (unit : TranslationUnit)
    (idiom : String)
    (reference : NodeId) :
    Except Fault Target :=
  match (unit.referenced? reference).filter fun id => (unit.kind id).isFunctionLike with
  | some declaration => .ok (.call declaration none)
  | none =>
      mismatch unit idiom reference
        ("`" ++ unit.spelling reference ++ "` does not name a function")

/-- The body of a lambda: that of the call operator of its closure, or its last own. -/
def lambdaBody?
    (unit : TranslationUnit)
    (lambda : NodeId) :
    Option NodeId :=
  let records := (unit.children lambda).filter fun id => (unit.kind id).isRecord
  let callOperator :=
    (records.flatMap fun record => unit.childrenOfKind record .method).find? fun method =>
      unit.spelling method == "operator()"
  let closureBody :=
    callOperator.bind fun method => (unit.childrenOfKind method .compoundStatement).head?
  match closureBody with
  | some body => some body
  | none => (unit.childrenOfKind lambda .compoundStatement).getLast?

/-- The target of the expression that a dispatcher evaluates. -/
def ofExpression
    (unit : TranslationUnit)
    (idiom : String)
    (expression : NodeId) :
    Except Fault Target :=
  match unit.kind expression with
  | .call =>
      match unit.referenced? expression with
      | some declaration => .ok (.call declaration (some expression))
      | none =>
          mismatch unit idiom expression
            ("cannot resolve the function called as `" ++ unit.spelling expression ++ "`")
  | .construct =>
      match unit.referenced? expression with
      | some declaration => .ok (.construct declaration)
      | none => mismatch unit idiom expression "cannot resolve the constructor being called"
  | .memberReference =>
      match (unit.referenced? expression).filter fun id => unit.kind id == .field with
      | some field => .ok (.read field)
      | none =>
          mismatch unit idiom expression
            ("`" ++ unit.spelling expression ++ "` is not a data member")
  | kind =>
      if kind = .binaryOperator ∧ unit.spelling expression = "=" then
        let assigned :=
          ((unit.child? expression 0).map (unwrap unit)).filter fun id =>
            unit.kind id == .memberReference
        match (assigned.bind unit.referenced?).filter fun id => unit.kind id == .field with
        | some field => .ok (.write field)
        | none =>
            mismatch unit idiom expression "assignment dispatcher must assign a data member"
      else
        mismatch unit idiom expression
          ("dispatcher must call a function, found " ++ kind.text)

/-- The target of a lambda, whose body is a single statement. -/
def ofLambda
    (unit : TranslationUnit)
    (idiom : String)
    (lambda : NodeId) :
    Except Fault Target :=
  match lambdaBody? unit lambda with
  | none => mismatch unit idiom lambda "dispatcher lambda has no body"
  | some body =>
      match unit.children body with
      | [statement] =>
          if unit.kind statement = .returnStatement then
            match unit.child? statement 0 with
            | some expression => ofExpression unit idiom (unwrap unit expression)
            | none => mismatch unit idiom statement "dispatcher returns no value"
          else ofExpression unit idiom (unwrap unit statement)
      | statements =>
          mismatch unit idiom body
            ("dispatcher body must be a single statement, found "
              ++ Text.ofNat statements.length)

/-- The target of a dispatcher argument. -/
def target
    (unit : TranslationUnit)
    (idiom : String)
    (argument : NodeId) :
    Except Fault Target :=
  let inner := unwrap unit argument
  match unit.kind inner with
  | .lambda => ofLambda unit idiom inner
  | .declarationReference => ofReference unit idiom inner
  | kind =>
      if kind = .unaryOperator ∧ unit.spelling inner = "&" then
        match ((unit.child? inner 0).map (unwrap unit)).filter fun id =>
            unit.kind id == .declarationReference with
        | some reference => ofReference unit idiom reference
        | none => mismatch unit idiom inner "expected `&function` as dispatcher"
      else
        mismatch unit idiom inner
          ("expected a lambda or function reference as dispatcher, found " ++ kind.text)

end Dispatcher

end BindingStubs
