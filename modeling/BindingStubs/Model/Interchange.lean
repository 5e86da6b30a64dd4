import BindingStubs.Json.Record
import BindingStubs.Model.Basic

namespace BindingStubs

/-!
# Binding models as JSON

The written form of a model lists its entities field by field in a fixed order.  Lookup
tables are not written; they are rebuilt after reading.
-/

namespace Interchange

open Json

/-! ## Writing -/

/-- A location. -/
def encodeLocation
    (location : Location) :
    Json :=
  .object
    [("file", .string location.file),
     ("line", .ofNat location.line),
     ("column", .ofNat location.column)]

/-- An optional value, null when it is absent. -/
def encodeOption
    {α : Type}
    (encode : α → Json) :
    Option α → Json
  | some value => encode value
  | none => .null

/-- A keyed list as an object. -/
def encodeKeyed
    {α : Type}
    (encode : α → Json)
    (keyed : Keyed α) :
    Json :=
  .object (keyed.entries.map fun entry => (entry.1, encode entry.2))

mutual

/-- A type; its argument list is left out when it has none. -/
def encodeType : CppType → Json
  | .plain name => .object [("name", .string name)]
  | .applied name arguments =>
      .object [("name", .string name), ("args", .array (encodeTypes arguments))]

/-- The types of an argument list. -/
def encodeTypes : List CppType → List Json
  | [] => []
  | type :: rest => encodeType type :: encodeTypes rest

end

/-- A literal with its kind. -/
def encodeLiteral : Literal → Json
  | .integer digits => .object [("kind", .string "integer"), ("value", .string digits)]
  | .float digits => .object [("kind", .string "float"), ("value", .string digits)]
  | .bool value => .object [("kind", .string "bool"), ("value", .bool value)]
  | .string value => .object [("kind", .string "string"), ("value", .string value)]

/-- The word for a kind of enum values. -/
def valueKindWord : ValueKind → String
  | .integer => "integer"
  | .string => "string"
  | .unspecified => "opaque"

/-- A parameter. -/
def encodeParameter
    (parameter : Parameter) :
    Json :=
  .object [("name", .string parameter.name), ("ty", encodeType parameter.type)]

/-- A signature. -/
def encodeSignature
    (signature : Signature) :
    Json :=
  .object
    [("return_type", encodeOption encodeType signature.returns),
     ("params", .array (signature.parameters.map encodeParameter)),
     ("raw_signature", .string signature.spelling)]

/-- An overload. -/
def encodeCallable
    (callable : Callable) :
    Json :=
  .object
    [("signature", encodeSignature callable.signature),
     ("doc", .ofOption callable.doc),
     ("is_static", .bool callable.isStatic),
     ("cpp_signature", .string callable.cppSignature),
     ("location", encodeLocation callable.location)]

/-- The overloads of one name. -/
def encodeCallables
    (callables : List Callable) :
    Json :=
  .array (callables.map encodeCallable)

/-- A constant. -/
def encodeConstant
    (constant : Constant) :
    Json :=
  .object
    [("name", .string constant.name),
     ("ty", encodeType constant.type),
     ("value", encodeOption encodeLiteral constant.value),
     ("location", encodeLocation constant.location)]

/-- A property. -/
def encodeProperty
    (property : Property) :
    Json :=
  .object
    [("name", .string property.name),
     ("doc", .ofOption property.doc),
     ("get_type", encodeOption encodeType property.getterType),
     ("set_type", encodeOption encodeType property.setterType),
     ("set_param_name", .ofOption property.setterParameter),
     ("location", encodeLocation property.location)]

/-- A module. -/
def encodeModule
    (entity : Module) :
    Json :=
  .object
    [("cpp_name", .string entity.cppName),
     ("dynamic_name", .string entity.pythonName),
     ("doc", .ofOption entity.doc),
     ("fully_qualified_name", .ofOption entity.qualifiedName),
     ("inner_classes", encodeKeyed encodeLocation entity.innerClasses),
     ("inner_enums", encodeKeyed encodeLocation entity.innerEnums),
     ("functions", encodeKeyed encodeCallables entity.functions),
     ("constants", encodeKeyed encodeConstant entity.constants),
     ("declared_at", encodeOption encodeLocation entity.declaredAt),
     ("imported", .bool entity.imported)]

/-- A class. -/
def encodeClass
    (entity : Class) :
    Json :=
  .object
    [("dynamic_name", .string entity.pythonName),
     ("shadow_key", .string entity.shadowKey),
     ("cpp_type", encodeType entity.cppType),
     ("parent_key", .ofOption entity.parentKey),
     ("doc", .ofOption entity.doc),
     ("fully_qualified_name", .ofOption entity.qualifiedName),
     ("inner_classes", encodeKeyed encodeLocation entity.innerClasses),
     ("inner_enums", encodeKeyed encodeLocation entity.innerEnums),
     ("constructors", encodeCallables entity.constructors),
     ("methods", encodeKeyed encodeCallables entity.methods),
     ("properties", encodeKeyed encodeProperty entity.properties),
     ("constants", encodeKeyed encodeConstant entity.constants),
     ("implicit_conversion_sources", .array (encodeTypes entity.implicitSources)),
     ("declared_at", encodeOption encodeLocation entity.declaredAt),
     ("imported", .bool entity.imported)]

/-- An enum. -/
def encodeEnum
    (entity : Enumeration) :
    Json :=
  .object
    [("dynamic_name", .string entity.pythonName),
     ("cpp_name", .string entity.cppName),
     ("value_kind", .string (valueKindWord entity.valueKind)),
     ("values", encodeKeyed (encodeOption encodeLiteral) entity.values),
     ("doc", .ofOption entity.doc),
     ("fully_qualified_name", .ofOption entity.qualifiedName),
     ("declared_at", encodeOption encodeLocation entity.declaredAt),
     ("imported", .bool entity.imported)]

/-- A type rule. -/
def encodeRule
    (rule : TypeRule) :
    Json :=
  .object
    [("matched_type", encodeType rule.pattern),
     ("rendering", .string rule.rendering),
     ("template_params", .ofStrings rule.parameters),
     ("extra_declarations", .ofStrings rule.declarations),
     ("location", encodeLocation rule.location)]

/-- A model without its lookup tables. -/
def encodeModel
    (model : BindingModel) :
    Json :=
  .object
    [("modules", .array (model.modules.map encodeModule)),
     ("classes", .array (model.classes.map encodeClass)),
     ("enums", .array (model.enums.map encodeEnum)),
     ("rules", encodeKeyed (fun rules => .array (rules.map encodeRule)) model.rules)]

/-! ## Reading -/

/-- A location, whose numbers have 32 bits. -/
def decodeLocation
    (value : Json) :
    Option Location := do
  let record ← record? ["file", "line", "column"] value
  return {
    file := ← record.required "file" string?
    line := ← record.required "line" (below? (Width.limit 32))
    column := ← record.required "column" (below? (Width.limit 32)) }

/-- What one field of a written type says. -/
inductive TypeField where
  | name (name : String)
  | arguments (arguments : Option (List CppType))
  deriving Repr

/-- The type that the known fields of an object describe, each given at most once. -/
def typeOfFields : List TypeField → Option CppType
  | [.name name] => some (.plain name)
  | [.name name, .arguments arguments] => some (CppType.ofParts name arguments)
  | [.arguments arguments, .name name] => some (CppType.ofParts name arguments)
  | _ => none

mutual

/-- A type. -/
def decodeType : Json → Option CppType
  | .object fields => (decodeTypeFields fields).bind typeOfFields
  | .array [name] => (string? name).map CppType.plain
  | .array [name, arguments] =>
      match string? name, decodeArguments arguments with
      | some name, some arguments => some (CppType.ofParts name arguments)
      | _, _ => none
  | _ => none

/-- The known fields of a type, in order. -/
def decodeTypeFields : List (String × Json) → Option (List TypeField)
  | [] => some []
  | (name, value) :: rest =>
      if name = "name" then
        match string? value, decodeTypeFields rest with
        | some text, some fields => some (.name text :: fields)
        | _, _ => none
      else if name = "args" then
        match decodeArguments value, decodeTypeFields rest with
        | some arguments, some fields => some (.arguments arguments :: fields)
        | _, _ => none
      else decodeTypeFields rest

/-- An argument list, which may be null. -/
def decodeArguments : Json → Option (Option (List CppType))
  | .null => some none
  | .array items => (decodeTypes items).map some
  | _ => none

/-- The types of an array. -/
def decodeTypes : List Json → Option (List CppType)
  | [] => some []
  | item :: rest =>
      match decodeType item, decodeTypes rest with
      | some type, some types => some (type :: types)
      | _, _ => none

end

/-- An array of types. -/
def decodeTypeList : Json → Option (List CppType)
  | .array items => decodeTypes items
  | _ => none

/-- A literal with its kind. -/
def decodeLiteral
    (value : Json) :
    Option Literal := do
  let record ← record? ["kind", "value"] value
  let kind ← record.required "kind" string?
  if kind = "integer" then return .integer (← record.required "value" string?)
  else if kind = "float" then return .float (← record.required "value" string?)
  else if kind = "bool" then return .bool (← record.required "value" bool?)
  else if kind = "string" then return .string (← record.required "value" string?)
  else none

/-- A kind of enum values. -/
def decodeValueKind
    (value : Json) :
    Option ValueKind :=
  match string? value with
  | some word =>
      [ValueKind.integer, ValueKind.string, ValueKind.unspecified].find? fun kind =>
        valueKindWord kind == word
  | none => none

/-- A keyed list from an object; of two values under one key the later counts. -/
def decodeKeyed
    {α : Type}
    (decode : Json → Option α)
    (value : Json) :
    Option (Keyed α) :=
  (entries? decode value).map Keyed.ofList

/-- A parameter. -/
def decodeParameter
    (value : Json) :
    Option Parameter := do
  let record ← record? ["name", "ty"] value
  return {
    name := ← record.required "name" string?
    type := ← record.required "ty" decodeType }

/-- A signature. -/
def decodeSignature
    (value : Json) :
    Option Signature := do
  let record ← record? ["return_type", "params", "raw_signature"] value
  return {
    returns := ← record.optional "return_type" decodeType
    parameters := ← record.required "params" (list? decodeParameter)
    spelling := ← record.required "raw_signature" string? }

/-- An overload. -/
def decodeCallable
    (value : Json) :
    Option Callable := do
  let record ← record? ["signature", "doc", "is_static", "cpp_signature", "location"] value
  return {
    signature := ← record.required "signature" decodeSignature
    doc := ← record.optional "doc" string?
    isStatic := ← record.defaulted "is_static" false bool?
    cppSignature := ← record.required "cpp_signature" string?
    location := ← record.required "location" decodeLocation }

/-- A constant. -/
def decodeConstant
    (value : Json) :
    Option Constant := do
  let record ← record? ["name", "ty", "value", "location"] value
  return {
    name := ← record.required "name" string?
    type := ← record.required "ty" decodeType
    value := ← record.optional "value" decodeLiteral
    location := ← record.required "location" decodeLocation }

/-- A property. -/
def decodeProperty
    (value : Json) :
    Option Property := do
  let record ←
    record? ["name", "doc", "get_type", "set_type", "set_param_name", "location"] value
  return {
    name := ← record.required "name" string?
    doc := ← record.optional "doc" string?
    getterType := ← record.optional "get_type" decodeType
    setterType := ← record.optional "set_type" decodeType
    setterParameter := ← record.optional "set_param_name" string?
    location := ← record.required "location" decodeLocation }

/-- A module. -/
def decodeModule
    (value : Json) :
    Option Module := do
  let record ←
    record?
      ["cpp_name", "dynamic_name", "doc", "fully_qualified_name", "inner_classes",
       "inner_enums", "functions", "constants", "declared_at", "imported"] value
  return {
    cppName := ← record.required "cpp_name" string?
    pythonName := ← record.required "dynamic_name" string?
    doc := ← record.optional "doc" string?
    qualifiedName := ← record.optional "fully_qualified_name" string?
    innerClasses := ← record.required "inner_classes" (decodeKeyed decodeLocation)
    innerEnums := ← record.required "inner_enums" (decodeKeyed decodeLocation)
    functions := ← record.required "functions" (decodeKeyed (list? decodeCallable))
    constants := ← record.required "constants" (decodeKeyed decodeConstant)
    declaredAt := ← record.optional "declared_at" decodeLocation
    imported := ← record.defaulted "imported" false bool? }

/-- A class. -/
def decodeClass
    (value : Json) :
    Option Class := do
  let record ←
    record?
      ["dynamic_name", "shadow_key", "cpp_type", "parent_key", "doc",
       "fully_qualified_name", "inner_classes", "inner_enums", "constructors", "methods",
       "properties", "constants", "implicit_conversion_sources", "declared_at",
       "imported"] value
  return {
    pythonName := ← record.required "dynamic_name" string?
    shadowKey := ← record.required "shadow_key" string?
    cppType := ← record.required "cpp_type" decodeType
    parentKey := ← record.optional "parent_key" string?
    doc := ← record.optional "doc" string?
    qualifiedName := ← record.optional "fully_qualified_name" string?
    innerClasses := ← record.required "inner_classes" (decodeKeyed decodeLocation)
    innerEnums := ← record.required "inner_enums" (decodeKeyed decodeLocation)
    constructors := ← record.required "constructors" (list? decodeCallable)
    methods := ← record.required "methods" (decodeKeyed (list? decodeCallable))
    properties := ← record.required "properties" (decodeKeyed decodeProperty)
    constants := ← record.required "constants" (decodeKeyed decodeConstant)
    implicitSources :=
      (← record.required "implicit_conversion_sources" decodeTypeList).foldl insertSource []
    declaredAt := ← record.optional "declared_at" decodeLocation
    imported := ← record.defaulted "imported" false bool? }

/-- An enum. -/
def decodeEnum
    (value : Json) :
    Option Enumeration := do
  let record ←
    record?
      ["dynamic_name", "cpp_name", "value_kind", "values", "doc", "fully_qualified_name",
       "declared_at", "imported"] value
  return {
    pythonName := ← record.required "dynamic_name" string?
    cppName := ← record.required "cpp_name" string?
    valueKind := ← record.required "value_kind" decodeValueKind
    values := ← record.required "values" (decodeKeyed (Record.nullable decodeLiteral))
    doc := ← record.optional "doc" string?
    qualifiedName := ← record.optional "fully_qualified_name" string?
    declaredAt := ← record.optional "declared_at" decodeLocation
    imported := ← record.defaulted "imported" false bool? }

/-- A type rule. -/
def decodeRule
    (value : Json) :
    Option TypeRule := do
  let record ←
    record?
      ["matched_type", "rendering", "template_params", "extra_declarations",
       "location"] value
  return {
    pattern := ← record.required "matched_type" decodeType
    rendering := ← record.required "rendering" string?
    parameters := ← record.required "template_params" (list? string?)
    declarations := ← record.required "extra_declarations" (list? string?)
    location := ← record.required "location" decodeLocation }

/-- A model with empty lookup tables. -/
def decodeModel
    (value : Json) :
    Option BindingModel := do
  let record ← record? ["modules", "classes", "enums", "rules"] value
  return {
    modules := ← record.required "modules" (list? decodeModule)
    classes := ← record.required "classes" (list? decodeClass)
    enums := ← record.required "enums" (list? decodeEnum)
    rules := ← record.required "rules" (decodeKeyed (list? decodeRule)) }

end Interchange

end BindingStubs
