import BindingStubs.Extraction.Idiom
import BindingStubs.Fault
import BindingStubs.Literal
import BindingStubs.Tree.Unit

namespace BindingStubs

/-!
# Shapes of expressions

What an idiom expects of its call and arguments.  Wrappers that keep the value of an
expression are passed over; a shape that does not fit is a fault that names the idiom and
the location of the offending node.
-/

namespace Shape

/-- The fault of a node that does not have the required shape. -/
def mismatch
    {Result : Type}
    (unit : TranslationUnit)
    (idiom : String)
    (id : NodeId)
    (reason : String) :
    Except Fault Result :=
  .error (.shapeMismatch idiom reason (unit.location id))

/-- The only child of a wrapper. -/
def wrapped?
    (unit : TranslationUnit)
    (id : NodeId) :
    Option NodeId :=
  if (unit.kind id).isTransparent then
    match unit.children id with
    | [inner] => some inner
    | _ => none
  else none

/-- Pass over a number of wrappers. -/
def unwrapWithin
    (unit : TranslationUnit) :
    (levels : Nat) → NodeId → NodeId
  | 0, id => id
  | levels + 1, id =>
      match wrapped? unit id with
      | some inner => unwrapWithin unit levels inner
      | none => id

/-- The expression below all wrappers.  Children follow their parents in the array, so the
size of the array bounds the number of wrappers. -/
def unwrap
    (unit : TranslationUnit)
    (id : NodeId) :
    NodeId :=
  unwrapWithin unit unit.nodes.size id

/-- The parts of a call: the object of a member call, and the explicit arguments. -/
structure CallParts where
  receiver : Option NodeId
  arguments : List NodeId
  deriving Repr, DecidableEq

/-- Split a call into its parts. -/
def callParts
    (unit : TranslationUnit)
    (call : NodeId) :
    CallParts :=
  let callee := (unit.child? call 0).map (unwrap unit)
  { receiver :=
      (callee.filter fun id => unit.kind id == .memberReference).bind (unit.child? · 0)
    arguments :=
      (unit.children call).tail.filter fun id => unit.kind id != .defaultArgument }

/-- Check the number of arguments. -/
def expectArguments
    (unit : TranslationUnit)
    (idiom : String)
    (call : NodeId)
    (found least most : Nat) :
    Except Fault Unit :=
  if found < least ∨ most < found then
    let expected :=
      if least = most then Text.ofNat least
      else Text.ofNat least ++ " to " ++ Text.ofNat most
    mismatch unit idiom call
      ("expected " ++ expected ++ " arguments, found " ++ Text.ofNat found)
  else .ok ()

/-- The text of a string literal. -/
def stringLiteral
    (unit : TranslationUnit)
    (idiom : String)
    (argument : NodeId) :
    Except Fault String :=
  let inner := unwrap unit argument
  match unit.kind inner, unit.value? inner with
  | .stringLiteral, some text => .ok text
  | kind, _ =>
      mismatch unit idiom inner ("expected a string literal, found " ++ kind.text)

/-- Whether an argument is a null pointer. -/
def isNull
    (unit : TranslationUnit)
    (argument : NodeId) :
    Bool :=
  unit.kind (unwrap unit argument) == .nullPointerLiteral

/-- A documentation argument; a null pointer or blank text documents nothing. -/
def docText
    (unit : TranslationUnit)
    (idiom : String)
    (argument : NodeId) :
    Except Fault (Option String) :=
  if isNull unit argument then .ok none
  else
    match stringLiteral unit idiom argument with
    | .ok text => .ok (if Text.isBlank text.toList then none else some text)
    | .error fault => .error fault

/-- A number without the letters that give its type. -/
def dropTypeSuffix
    (digits : String) :
    String :=
  let text := digits.toList
  let isHex := "0x".toList.isPrefixOf text || "0X".toList.isPrefixOf text
  let isSuffix (character : Char) : Bool :=
    "uUlL".toList.contains character || (!isHex && "fF".toList.contains character)
  String.ofList (Text.dropTrailing isSuffix text)

/-- A number with the other sign. -/
def negate
    (digits : String) :
    String :=
  match digits.toList with
  | '-' :: rest => String.ofList rest
  | _ => "-" ++ digits

/-- A numeric literal with the other sign. -/
def negateLiteral? : Literal → Option Literal
  | .integer digits => some (.integer (negate digits))
  | .float digits => some (.float (negate digits))
  | _ => none

/-- The number of nodes that are no wrappers.  A chain of expressions in which each is reached from
the one before, and that does not run in a circle, is no longer than this. -/
def longestChain
    (unit : TranslationUnit) :
    Nat :=
  (List.range unit.nodes.size).countP fun id => (wrapped? unit id).isNone

/-- The first value that is read from some nodes. -/
def firstLiteral
    (read : NodeId → Except Fault (Option Literal)) :
    List NodeId → Except Fault (Option Literal)
  | [] => .ok none
  | id :: rest =>
      match read id with
      | .ok none => firstLiteral read rest
      | found => found

/-- The literal value of a constant expression, looking through at most `steps` operands
and references. -/
def literalWithin
    (unit : TranslationUnit) :
    (steps : Nat) → NodeId → Except Fault (Option Literal)
  | 0, id => .error (.endless (unit.spelling id))
  | steps + 1, id =>
      let inner := unwrap unit id
      let value := unit.value? inner
      let ofOperand : Except Fault (Option Literal) :=
        match unit.child? inner 0 with
        | some operand => literalWithin unit steps operand
        | none => .ok none
      match unit.kind inner with
      | .integerLiteral => .ok (value.map fun digits => .integer (dropTypeSuffix digits))
      | .floatingLiteral => .ok (value.map fun digits => .float (dropTypeSuffix digits))
      | .boolLiteral => .ok (value.map fun text => .bool (text == "true"))
      | .stringLiteral => .ok (value.map .string)
      | .unaryOperator =>
          if unit.spelling inner = "-" then ofOperand.map (·.bind negateLiteral?)
          else if unit.spelling inner = "+" then ofOperand
          else .ok none
      | .declarationReference =>
          match unit.referenced? inner with
          | none => .ok none
          | some target =>
              match unit.kind target with
              | .enumerator => .ok ((unit.value? target).map .integer)
              | .variableDeclaration =>
                  firstLiteral (literalWithin unit steps) (unit.children target)
              | _ => .ok none
      | .unexposed =>
          match value.filter fun text => (Text.readInteger? text.toList).isSome with
          | some digits => .ok (some (.integer digits))
          | none => ofOperand
      | _ => .ok none

/-- The literal value of a constant expression, if it can be read.  Operands and references that
run in a circle are a fault. -/
def literal?
    (unit : TranslationUnit)
    (id : NodeId) :
    Except Fault (Option Literal) :=
  literalWithin unit (longestChain unit + 1) id

/-- The type of an expression, of a wrapper or of what it wraps. -/
def expressionType?
    (unit : TranslationUnit)
    (id : NodeId) :
    Option CppType :=
  match unit.type? id with
  | some type => some type
  | none => unit.type? (unwrap unit id)

/-- The type of an expression that must have one. -/
def expressionType
    (unit : TranslationUnit)
    (idiom : String)
    (id : NodeId) :
    Except Fault CppType :=
  match expressionType? unit id with
  | some type => .ok type
  | none => mismatch unit idiom id "expression has no type"

/-- A class as its handle gives it. -/
structure ClassKeys where
  shadowKey : String
  cppType : CppType
  deriving Repr, DecidableEq

/-- The keys in the type of a class handle. -/
def classKeys
    (unit : TranslationUnit)
    (idiom : String)
    (id : NodeId) :
    Except Fault ClassKeys := do
  let type ← expressionType unit idiom id
  match type.arguments? with
  | some [cppType, shadow] =>
      if Idiom.isNamed type Idiom.classHandle then
        return { shadowKey := shadow.text, cppType }
      else refuse type
  | _ => refuse type
where
  /-- The fault of an expression with another type. -/
  refuse (type : CppType) : Except Fault ClassKeys :=
    mismatch unit idiom id
      ("expected a `" ++ Idiom.classHandle ++ "<T, S>` expression, found `"
        ++ type.text ++ "`")

/-- The C++ name in the type of an enum handle. -/
def enumKey
    (unit : TranslationUnit)
    (idiom : String)
    (id : NodeId) :
    Except Fault String := do
  let type ← expressionType unit idiom id
  match type.arguments? with
  | some [enum] =>
      if Idiom.isNamed type Idiom.enumHandle then return enum.text else refuse type
  | _ => refuse type
where
  /-- The fault of an expression with another type. -/
  refuse (type : CppType) : Except Fault String :=
    mismatch unit idiom id
      ("expected a `" ++ Idiom.enumHandle ++ "<E>` expression, found `" ++ type.text ++ "`")

end Shape

end BindingStubs
