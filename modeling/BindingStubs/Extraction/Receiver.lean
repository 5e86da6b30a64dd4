import BindingStubs.Extraction.Shape

namespace BindingStubs

/-!
# Receivers

A member idiom is called on a module or on a class.  A class is known by the type of its
handle.  A module is known by the variable that its declaring call initializes, or by its
name when there is no such variable; a chain of calls leads back to either.
-/

/-- The object that an idiom is called on. -/
inductive Receiver where
  | module (key : String)
  | class (keys : Shape.ClassKeys)
  deriving Repr, DecidableEq

namespace Receiver

open Shape

/-- Whether a variable is declared inside a function body. -/
def isLocal
    (unit : TranslationUnit)
    (variableNode : NodeId) :
    Bool :=
  (unit.ancestors variableNode).any fun id =>
    (unit.kind id).isFunctionLike || unit.kind id == .lambda
      || unit.kind id == .compoundStatement

/-- The key of a module variable.  A global is keyed by its qualified name, so that other
files agree on it; a local also carries its declaration site. -/
def variableKey
    (unit : TranslationUnit)
    (variableNode : NodeId) :
    String :=
  let name := unit.qualifiedName variableNode
  if isLocal unit variableNode then name ++ "@" ++ (unit.location variableNode).text else name

/-- The nearest variable above a node, without leaving the enclosing block. -/
def initializedVariable?
    (unit : TranslationUnit)
    (id : NodeId) :
    Option NodeId :=
  ((unit.ancestors id).takeWhile fun ancestor =>
    unit.kind ancestor != .compoundStatement && unit.kind ancestor != .translationUnit).find?
      fun ancestor => unit.kind ancestor == .variableDeclaration

/-- The key of the module that a declaring call creates. -/
def declaredModuleKey
    (unit : TranslationUnit)
    (call : NodeId)
    (name : String) :
    String :=
  match initializedVariable? unit call with
  | some variableNode => variableKey unit variableNode
  | none => "module:" ++ name

/-- The key of the module that an expression stands for, looking through at most `steps`
calls. -/
def moduleKeyWithin
    (unit : TranslationUnit)
    (idiom : String) :
    (steps : Nat) → NodeId → Except Fault String
  | 0, id => mismatch unit idiom id "cannot trace the module this call returns"
  | steps + 1, id =>
      let inner := unwrap unit id
      match unit.kind inner with
      | .declarationReference =>
          match (unit.referenced? inner).filter fun target =>
              unit.kind target == .variableDeclaration with
          | some variableNode => .ok (variableKey unit variableNode)
          | none =>
              mismatch unit idiom inner
                ("`" ++ unit.spelling inner ++ "` is not a module variable")
      | .call =>
          let parts := callParts unit inner
          if unit.spelling inner = Idiom.name .declareModule then
            match parts.arguments with
            | [] => .ok (declaredModuleKey unit inner "")
            | argument :: _ =>
                (stringLiteral unit idiom argument).map (declaredModuleKey unit inner)
          else
            match parts.receiver with
            | some object => moduleKeyWithin unit idiom steps object
            | none => mismatch unit idiom inner "cannot trace the module this call returns"
      | kind =>
          mismatch unit idiom inner ("expected a module variable, found " ++ kind.text)

/-- The key of the module that an expression stands for.  The calls of a chain lie below each
other, so that it does not run in a circle. -/
def moduleKey
    (unit : TranslationUnit)
    (idiom : String)
    (id : NodeId) :
    Except Fault String :=
  moduleKeyWithin unit idiom (longestChain unit + 1) id

/-- The receiver of a call that may be made on a module or a class. -/
def ofCall
    (unit : TranslationUnit)
    (idiom : String)
    (call : NodeId)
    (object : Option NodeId) :
    Except Fault Receiver :=
  match object with
  | none =>
      mismatch unit idiom call "expected a member call on a registration object"
  | some object => do
      let type := expressionType? unit object <|> unit.type? call
      let isNamed (name : String) := (type.map fun type => Idiom.isNamed type name) == some true
      if isNamed Idiom.classHandle then
        return .class (← classKeys unit idiom object)
      else if isNamed Idiom.moduleHandle then
        return .module (← moduleKey unit idiom object)
      else
        mismatch unit idiom object "receiver is neither a module nor a class definition"

/-- The module that a call is made on. -/
def moduleOfCall
    (unit : TranslationUnit)
    (idiom : String)
    (call : NodeId)
    (object : Option NodeId) :
    Except Fault String := do
  match ← ofCall unit idiom call object with
  | .module key => return key
  | .class _ =>
      mismatch unit idiom call "expected a module receiver, found a class definition"

/-- The class that a call is made on.  A receiver may carry no type; the call returns the
same handle. -/
def classOfCall
    (unit : TranslationUnit)
    (idiom : String)
    (call : NodeId)
    (object : Option NodeId) :
    Except Fault ClassKeys :=
  match object with
  | none => mismatch unit idiom call "expected a member call on a class definition"
  | some object =>
      match classKeys unit idiom object with
      | .ok keys => .ok keys
      | .error _ => classKeys unit idiom call

end Receiver

end BindingStubs
