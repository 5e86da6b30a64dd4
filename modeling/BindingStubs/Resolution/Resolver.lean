import BindingStubs.Model.Basic
import BindingStubs.Resolution.Builtin
import BindingStubs.Resolution.Specificity

namespace BindingStubs

/-!
# Resolution of types

A type is rendered by the first of these that applies: the name of a registered class or
enum; a rule for exactly this type; the most specific rule that matches, where a tie is a
fault; the built-in table; what a pointer points to; the C++ spelling itself.

Resolving collects a prelude: the declarations and imports that the renderings need, each
once, in the order of first use.
-/

/-- The model to resolve against and the module relative to which names are given. -/
structure ResolutionScope where
  model : BindingModel
  scope : Option String := none

/-- A computation that renders types and collects the prelude. -/
abbrev Resolving (Result : Type) := EStateM Fault (List String) Result

namespace Resolution

/-- Record a declaration for the prelude, unless it is blank or already there. -/
def declare
    (declaration : List Char) :
    Resolving Unit :=
  let trimmed := String.ofList (Text.trim declaration)
  modify fun prelude =>
    if trimmed.isEmpty || prelude.contains trimmed then prelude else prelude ++ [trimmed]

/-- What follows a scope and a dot in a name. -/
def belowScope?
    (scope name : String) :
    Option String :=
  ((scope.toList ++ ['.']).isPrefixOf? name.toList).map String.ofList

/-- The module with the longest full name below which a name lies. -/
def owningModule?
    (model : BindingModel)
    (name : String) :
    Option String :=
  (model.modules.filterMap Module.qualifiedName).foldl
    (fun best candidate =>
      if (belowScope? candidate name).isSome then
        match best with
        | some other => if candidate.length < other.length then best else some candidate
        | none => some candidate
      else best)
    none

/-- A full name relative to the current module, or as it is with an import of its owner. -/
def relative
    (context : ResolutionScope)
    (name : String) :
    Resolving String := do
  match context.scope.bind (belowScope? · name) with
  | some rest => return rest
  | none =>
      if let some owner := owningModule? context.model name then
        declare ("import " ++ owner).toList
      return name

/-- The name of a registered class, given by its shadow key. -/
def className?
    (context : ResolutionScope)
    (shadowKey : String) :
    Resolving (Option String) := do
  match context.model.class? shadowKey with
  | none => return none
  | some entity =>
      match entity.qualifiedName with
      | none =>
          throw (.emission ("class `" ++ entity.shadowKey ++ "` is not added to any module"))
      | some name => return some (← relative context name)

/-- The name of the class or enum that a type is. -/
def entityName?
    (context : ResolutionScope)
    (type : CppType) :
    Resolving (Option String) := do
  match context.model.classForType? type with
  | some entity => className? context entity.shadowKey
  | none =>
      match type with
      | .applied _ _ => return none
      | .plain name =>
          match context.model.enum? name with
          | none => return none
          | some entity =>
              match entity.qualifiedName with
              | none =>
                  throw (.emission ("enum `" ++ entity.cppName
                    ++ "` is not added to any module"))
              | some qualified => return some (← relative context qualified)

/-- Whether a rule's texts refer to a parameter. -/
def refersTo
    (rule : TypeRule)
    (parameter : String) :
    Bool :=
  let placeholder := TypeRule.placeholder parameter
  Text.occursIn placeholder rule.rendering.toList
    || rule.declarations.any fun declaration =>
      Text.occursIn placeholder declaration.toList

/-- Render the bindings of the parameters that a rule refers to. -/
def renderBindings
    (resolvePart : CppType → Resolving String)
    (rule : TypeRule)
    (bindings : Bindings) :
    List String → Resolving (List (List Char × List Char))
  | [] => return []
  | parameter :: rest => do
      match bindings.get? parameter with
      | some bound =>
          if refersTo rule parameter then
            let rendered ← resolvePart bound
            return (TypeRule.placeholder parameter, rendered.toList)
              :: (← renderBindings resolvePart rule bindings rest)
          else renderBindings resolvePart rule bindings rest
      | none => renderBindings resolvePart rule bindings rest

/-- A text with placeholders replaced one after the other. -/
def fill
    (replacements : List (List Char × List Char))
    (template : String) :
    List Char :=
  replacements.foldl
    (fun text replacement => Text.replaceAll replacement.1 replacement.2 text)
    template.toList

/-- Record declarations in order. -/
def declareAll : List (List Char) → Resolving Unit
  | [] => return
  | declaration :: rest => do
      declare declaration
      declareAll rest

/-- Render a type by a rule under bindings of its parameters. -/
def applyRule
    (resolvePart : CppType → Resolving String)
    (rule : TypeRule)
    (bindings : Bindings) :
    Resolving String := do
  let replacements ← renderBindings resolvePart rule bindings rule.parameters
  declareAll (rule.declarations.map (fill replacements))
  return String.ofList (fill replacements rule.rendering)

/-- The rules with parameters that match a type, with their bindings. -/
def partialMatches
    (rules : List TypeRule)
    (type : CppType) :
    List (TypeRule × Bindings) :=
  rules.filterMap fun rule =>
    if rule.isFull then none
    else (Matching.match? rule.parameters rule.pattern type).map fun bindings =>
      (rule, bindings)

/-- Render a type by the rules of the model, if any applies. -/
def byRules?
    (resolvePart : CppType → Resolving String)
    (context : ResolutionScope)
    (type : CppType) :
    Resolving (Option String) := do
  let candidates := context.model.rulesFor type.name
  match candidates.find? fun rule => rule.isFull && rule.pattern == type with
  | some rule => return some (← applyRule resolvePart rule {})
  | none =>
      let found := partialMatches candidates type
      if found.isEmpty then return none
      match (Specificity.mostSpecific? (found.map Prod.fst)).bind (found[·]?) with
      | some (rule, bindings) => return some (← applyRule resolvePart rule bindings)
      | none =>
          throw (.ambiguous type.text (found.map fun entry => entry.1.describe))

/-- Render types in order. -/
def resolveAll
    (resolvePart : CppType → Resolving String) :
    List CppType → Resolving (List String)
  | [] => return []
  | type :: rest => do
      let rendered ← resolvePart type
      return rendered :: (← resolveAll resolvePart rest)

/-- Render an argument; one that is missing can be any object. -/
def resolveArgument
    (resolvePart : CppType → Resolving String)
    (type : CppType)
    (index : Nat) :
    Resolving String :=
  match type.argument? index with
  | some argument => resolvePart argument
  | none => return "object"

/-- Append a text unless it is already in the list. -/
def appendNew
    (texts : List String)
    (text : String) :
    List String :=
  if texts.contains text then texts else texts ++ [text]

/-- Render a function type given by its spelling. -/
def resolveFunction
    (resolvePart : CppType → Resolving String)
    (function : FunctionType) :
    Resolving String := do
  let parameters ← resolveAll resolvePart (function.parameters.map CppType.parse)
  let returns ← resolvePart (CppType.parse function.returns)
  declare Builtin.callableImport.toList
  return "Callable[[" ++ String.intercalate ", " parameters ++ "], " ++ returns ++ "]"

/-- Render a standard template by its shape. -/
def byShape?
    (resolvePart : CppType → Resolving String)
    (type : CppType) :
    Builtin.Shape → Resolving (Option String)
  | .text => return some "str"
  | .sequence => return some ("list[" ++ (← resolveArgument resolvePart type 0) ++ "]")
  | .set => return some ("set[" ++ (← resolveArgument resolvePart type 0) ++ "]")
  | .mapping => do
      let key ← resolveArgument resolvePart type 0
      let value ← resolveArgument resolvePart type 1
      return some ("dict[" ++ key ++ ", " ++ value ++ "]")
  | .optional => return some ((← resolveArgument resolvePart type 0) ++ " | None")
  | .tuple => do
      let parts ← resolveAll resolvePart (type.arguments?.getD [])
      if parts.isEmpty then return some "tuple[()]"
      else return some ("tuple[" ++ String.intercalate ", " parts ++ "]")
  | .function =>
      match (type.argument? 0).bind fun argument => FunctionType.split? argument.spell with
      | some function => return some (← resolveFunction resolvePart function)
      | none => return none
  | .pointee => return some (← resolveArgument resolvePart type 0)
  | .complex => return some "complex"
  | .union => do
      let parts ← resolveAll resolvePart (type.arguments?.getD [])
      return some (String.intercalate " | " (parts.foldl appendNew []))

/-- Render a type by the built-in table, if it has an entry. -/
def byBuiltin?
    (resolvePart : CppType → Resolving String)
    (type : CppType) :
    Resolving (Option String) :=
  match type with
  | .plain name => return Builtin.scalar? name
  | .applied name _ =>
      if type.isPointer then return none
      else
        match Builtin.shape? name with
        | some shape => byShape? resolvePart type shape
        | none => return none

/-- The number of characters in the spelling of a type that are not white space.  Every
part that resolution turns to has a smaller weight. -/
def weight
    (type : CppType) :
    Nat :=
  type.spell.countP fun character => !Text.isWhite character

/-- Render a type.  A rule that leads from a type back to a type that is no smaller would
never end, and is a fault. -/
def resolve
    (context : ResolutionScope)
    (type : CppType) :
    Resolving String := do
  let resolvePart (part : CppType) : Resolving String :=
    if _smaller : weight part < weight type then resolve context part
    else throw (.endless part.text)
  match ← entityName? context type with
  | some name => return name
  | none =>
      match ← byRules? resolvePart context type with
      | some rendered => return rendered
      | none =>
          match ← byBuiltin? resolvePart type with
          | some rendered => return rendered
          | none =>
              match type.pointee? with
              | some pointee => resolvePart pointee
              | none => return type.text
termination_by weight type
decreasing_by exact _smaller

end Resolution

end BindingStubs
