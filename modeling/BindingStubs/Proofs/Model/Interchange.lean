import BindingStubs.Artifact
import BindingStubs.Proofs.CppType.Structure
import BindingStubs.Proofs.Json.RoundTrip
import BindingStubs.Proofs.Keyed

namespace BindingStubs

/-!
# Models that are written and read

What is read from the written form of a model is that model, field by field.  Keyed lists are
read by inserting their entries one after the other, so they come back unchanged when their
keys are distinct, and otherwise with the last value of each key.  Lookup tables are not
written.
-/

namespace Json

/-! ## Plain values -/

attribute [simp] Plain.null Plain.bool Plain.natural Plain.string

@[simp] theorem plain_array_iff
    {items : List Json} :
    Plain (.array items) ↔ ∀ item ∈ items, Plain item :=
  ⟨fun | .array plainItems => plainItems, .array⟩

@[simp] theorem plain_object_iff
    {fields : List (String × Json)} :
    Plain (.object fields) ↔ ∀ field ∈ fields, Plain field.2 :=
  ⟨fun | .object plainFields => plainFields, .object⟩

@[simp] theorem plain_ofNat
    (value : Nat) :
    Plain (.ofNat value) :=
  .natural value

@[simp] theorem plain_ofOption
    (text : Option String) :
    Plain (.ofOption text) := by
  cases text <;> simp [ofOption]

@[simp] theorem plain_ofStrings
    (texts : List String) :
    Plain (.ofStrings texts) := by
  simp [ofStrings]

/-! ## Reading records -/

theorem namesOnce_of_nodup
    {fields : List (String × Json)}
    (distinct : (fields.map Prod.fst).Nodup) :
    namesOnce fields = true := by
  induction fields with
  | nil => rfl
  | cons field rest inductionHypothesis =>
      rw [List.map_cons, List.nodup_cons] at distinct
      have unrepeated : ∀ other ∈ rest, other.1 ≠ field.1 := fun other member same =>
        distinct.1 (same ▸ List.mem_map_of_mem member)
      simpa [namesOnce, inductionHypothesis distinct.2] using fun name value member =>
        unrepeated (name, value) member

/-- An object that has just the fields of a record is read as that record. -/
theorem record?_object
    {names : List String}
    {fields : List (String × Json)}
    (sameNames : fields.map Prod.fst = names)
    (distinct : names.Nodup) :
    record? names (.object fields) = some { fields, isPositional := false } := by
  subst sameNames
  have allKnown :
      (fields.filter fun field => (fields.map Prod.fst).contains field.1) = fields := by
    refine List.filter_eq_self.mpr fun field member => ?_
    simpa using ⟨field.2, member⟩
  rw [record?, allKnown]
  exact if_pos (namesOnce_of_nodup distinct)

end Json

namespace Interchange

open Json

/-- Whatever is read from the written form of a value is the given result. -/
def ReadsAs
    {α : Type}
    (encode : α → Json)
    (decode : Json → Option α)
    (value result : α) :
    Prop :=
  ∀ read, decode (reread (encode value)) = some read → read = result

/-- The record that written fields are read as. -/
def readRecord
    (fields : List (String × Json)) :
    Record :=
  { fields := fields.map fun field => (field.1, reread field.2), isPositional := false }

/-- A written object is read as a record if it has just the fields of that record. -/
theorem of_record
    {α : Type}
    {names : List String}
    {fields : List (String × Json)}
    {next : Record → Option α}
    {read : α}
    (decoded : (record? names (reread (.object fields))).bind next = some read)
    (sameNames : fields.map Prod.fst = names)
    (distinct : names.Nodup) :
    next (readRecord fields) = some read := by
  rw [reread, rereadFields_eq_map,
    record?_object (by simpa [Function.comp_def] using sameNames) distinct] at decoded
  exact decoded

theorem lookup_readRecord
    (fields : List (String × Json))
    (name : String) :
    (readRecord fields).fields.lookup name = (fields.lookup name).map reread := by
  induction fields with
  | nil => rfl
  | cons field rest inductionHypothesis =>
      obtain ⟨other, value⟩ := field
      simp only [readRecord] at inductionHypothesis
      simp only [readRecord, List.map_cons, List.lookup_cons, inductionHypothesis]
      cases name == other <;> rfl

section Fields

variable
  {α β : Type}
  {encode : α → Json}
  {decode : Json → Option α}
  {value result : α}
  {fields : List (String × Json)}
  {name : String}
  {next : α → Option β}
  {whole : β}

/-- A required field is read before what follows. -/
theorem ReadsAs.required
    (readsAs : ReadsAs encode decode value result)
    (read : ((readRecord fields).required name decode).bind next = some whole)
    (found : fields.lookup name = some (encode value)) :
    next result = some whole := by
  obtain ⟨part, decoded, rest⟩ := Option.bind_eq_some_iff.mp read
  rw [Record.required, lookup_readRecord, found] at decoded
  rw [readsAs part decoded] at rest
  exact rest

/-- A field with a default is read before what follows. -/
theorem ReadsAs.defaulted
    (readsAs : ReadsAs encode decode value result)
    {fallback : α}
    (read : ((readRecord fields).defaulted name fallback decode).bind next = some whole)
    (found : fields.lookup name = some (encode value)) :
    next result = some whole := by
  obtain ⟨part, decoded, rest⟩ := Option.bind_eq_some_iff.mp read
  rw [Record.defaulted, lookup_readRecord, found] at decoded
  rw [readsAs part decoded] at rest
  exact rest

end Fields

/-- An optional field is read before what follows. -/
theorem ReadsAs.optional
    {α β : Type}
    {encode : Option α → Json}
    {decode : Json → Option α}
    {value : Option α}
    (readsAs : ReadsAs encode (Record.nullable decode) value value)
    {fields : List (String × Json)}
    {name : String}
    {next : Option α → Option β}
    {whole : β}
    (read : ((readRecord fields).optional name decode).bind next = some whole)
    (found : fields.lookup name = some (encode value)) :
    next value = some whole := by
  obtain ⟨part, decoded, rest⟩ := Option.bind_eq_some_iff.mp read
  rw [Record.optional, lookup_readRecord, found] at decoded
  rw [readsAs part decoded] at rest
  exact rest

/-! ## Values without fields of their own -/

theorem readsAs_string
    (text : String) :
    ReadsAs Json.string string? text text := by
  rintro _ ⟨⟩
  rfl

theorem readsAs_bool
    (value : Bool) :
    ReadsAs Json.bool bool? value value := by
  rintro _ ⟨⟩
  rfl

theorem readsAs_below
    (limit value : Nat) :
    ReadsAs Json.ofNat (below? limit) value value :=
  fun _ decoded => below?_numeralOf decoded

theorem readsAs_ofOption
    (text : Option String) :
    ReadsAs Json.ofOption (Record.nullable string?) text text := by
  cases text with
  | none => rintro _ ⟨⟩; rfl
  | some text => rintro _ ⟨⟩; rfl

/-- An optional value is read as it is, if no value is written as null. -/
theorem readsAs_option
    {α : Type}
    {encode : α → Json}
    {decode : Json → Option α}
    (notNull : ∀ value, reread (encode value) ≠ .null)
    (each : ∀ value, ReadsAs encode decode value value)
    (value : Option α) :
    ReadsAs (encodeOption encode) (Record.nullable decode) value value := by
  intro read decoded
  cases value with
  | none =>
      cases decoded
      rfl
  | some value =>
      have isDecoded : (decode (reread (encode value))).map some = some read := by
        rw [encodeOption, Record.nullable] at decoded
        · exact decoded
        · exact notNull value
      obtain ⟨part, found, rfl⟩ := Option.map_eq_some_iff.mp isDecoded
      rw [each value part found]

theorem readsAs_list
    {α : Type}
    {encode : α → Json}
    {decode : Json → Option α}
    {result : α → α}
    (each : ∀ value, ReadsAs encode decode value (result value))
    (values : List α) :
    ReadsAs (fun values => .array (values.map encode)) (list? decode) values
      (values.map result) := by
  intro read decoded
  simp only [reread, rereadItems_eq_map, list?, List.map_map] at decoded
  induction values generalizing read with
  | nil =>
      cases decoded
      rfl
  | cons value rest inductionHypothesis =>
      simp only [List.map_cons, List.mapM_cons, Function.comp_apply, Option.bind_eq_bind,
        Option.bind_eq_some_iff] at decoded
      obtain ⟨first, decodedFirst, others, decodedOthers, isRead⟩ := decoded
      cases isRead
      rw [each value first decodedFirst, inductionHypothesis others decodedOthers, List.map_cons]

theorem readsAs_keyed
    {α : Type}
    {encode : α → Json}
    {decode : Json → Option α}
    (each : ∀ value, ReadsAs encode decode value value)
    (keyed : Keyed α) :
    ReadsAs (encodeKeyed encode) (decodeKeyed decode) keyed (Keyed.ofList keyed.entries) := by
  intro read decoded
  obtain ⟨entries, decodedEntries, rfl⟩ := Option.map_eq_some_iff.mp decoded
  clear decoded
  suffices same : entries = keyed.entries by rw [same]
  obtain ⟨written⟩ := keyed
  simp only [encodeKeyed, reread, rereadFields_eq_map, entries?, List.map_map] at decodedEntries
  induction written generalizing entries with
  | nil =>
      cases decodedEntries
      rfl
  | cons entry rest inductionHypothesis =>
      simp only [List.map_cons, List.mapM_cons, Function.comp_apply, Option.bind_eq_bind,
        Option.bind_eq_some_iff, Option.map_eq_some_iff] at decodedEntries
      obtain ⟨first, ⟨value, decodedValue, rfl⟩, others, decodedOthers, isRead⟩ := decodedEntries
      cases isRead
      rw [each entry.2 value decodedValue, inductionHypothesis others decodedOthers]

/-! ## Types and literals -/

theorem decodeTypes_eq_mapM
    (items : List Json) :
    decodeTypes items = items.mapM decodeType := by
  induction items with
  | nil => rfl
  | cons item rest inductionHypothesis =>
      rw [decodeTypes, List.mapM_cons, inductionHypothesis]
      cases decodeType item with
      | none => rfl
      | some type =>
          cases rest.mapM decodeType with
          | none => rfl
          | some types => rfl

theorem encodeTypes_eq_map
    (types : List CppType) :
    encodeTypes types = types.map encodeType := by
  induction types with
  | nil => rfl
  | cons type rest inductionHypothesis => rw [encodeTypes, inductionHypothesis, List.map_cons]

/-- A type is always read back. -/
theorem decodeType_encodeType
    (type : CppType) :
    decodeType (reread (encodeType type)) = some type := by
  induction type using CppType.recurse with
  | plain name =>
      simp [encodeType, reread, rereadFields, decodeType, decodeTypeFields, string?, typeOfFields]
  | applied name arguments inductionHypothesis =>
      have readArguments :
          decodeTypes (rereadItems (encodeTypes arguments)) = some arguments := by
        rw [decodeTypes_eq_mapM, rereadItems_eq_map, encodeTypes_eq_map, List.map_map]
        induction arguments with
        | nil => rfl
        | cons argument rest restHypothesis =>
            rw [List.map_cons, List.mapM_cons, Function.comp_apply,
              inductionHypothesis argument (List.mem_cons_self ..),
              restHypothesis fun other member =>
                inductionHypothesis other (List.mem_cons_of_mem _ member)]
            rfl
      simp [encodeType, reread, rereadFields, decodeType, decodeTypeFields, string?,
        decodeArguments, readArguments, typeOfFields, CppType.ofParts]

theorem readsAs_type
    (type : CppType) :
    ReadsAs encodeType decodeType type type := by
  intro read decoded
  rw [decodeType_encodeType] at decoded
  cases decoded
  rfl

theorem readsAs_typeList
    (types : List CppType) :
    ReadsAs (fun types => .array (encodeTypes types)) decodeTypeList types types := by
  intro read decoded
  simp only [encodeTypes_eq_map, reread, rereadItems_eq_map, decodeTypeList,
    decodeTypes_eq_mapM] at decoded
  have same := readsAs_list readsAs_type types read
  simp only [reread, rereadItems_eq_map, list?, List.map_id'] at same
  exact same decoded

theorem encodeType_not_null
    (type : CppType) :
    reread (encodeType type) ≠ .null := by
  cases type <;> simp [encodeType, reread]

theorem readsAs_literal
    (literal : Literal) :
    ReadsAs encodeLiteral decodeLiteral literal literal := by
  intro read decoded
  cases literal with
  | integer digits => cases decoded; rfl
  | float digits => cases decoded; rfl
  | bool value => cases decoded; rfl
  | string value => cases decoded; rfl

theorem encodeLiteral_not_null
    (literal : Literal) :
    reread (encodeLiteral literal) ≠ .null := by
  cases literal <;> simp [encodeLiteral, reread]

theorem readsAs_valueKind
    (kind : ValueKind) :
    ReadsAs (fun kind => .string (valueKindWord kind)) decodeValueKind kind kind := by
  intro read decoded
  cases kind <;> · cases decoded; rfl

/-! ## Records -/

theorem readsAs_location
    (location : Location) :
    ReadsAs encodeLocation decodeLocation location location := by
  intro read decoded
  rw [decodeLocation, encodeLocation] at decoded
  have decoded := of_record decoded rfl (by decide)
  have decoded := (readsAs_string location.file).required decoded rfl
  have decoded := (readsAs_below _ location.line).required decoded rfl
  have decoded := (readsAs_below _ location.column).required decoded rfl
  cases decoded
  rfl

theorem encodeLocation_not_null
    (location : Location) :
    reread (encodeLocation location) ≠ .null := by
  simp [encodeLocation, reread]

theorem readsAs_parameter
    (parameter : Parameter) :
    ReadsAs encodeParameter decodeParameter parameter parameter := by
  intro read decoded
  rw [decodeParameter, encodeParameter] at decoded
  have decoded := of_record decoded rfl (by decide)
  have decoded := (readsAs_string parameter.name).required decoded rfl
  have decoded := (readsAs_type parameter.type).required decoded rfl
  cases decoded
  rfl

theorem readsAs_signature
    (signature : Signature) :
    ReadsAs encodeSignature decodeSignature signature signature := by
  intro read decoded
  rw [decodeSignature, encodeSignature] at decoded
  have decoded := of_record decoded rfl (by decide)
  have decoded :=
    (readsAs_option encodeType_not_null readsAs_type signature.returns).optional decoded rfl
  have decoded := (readsAs_list readsAs_parameter signature.parameters).required decoded rfl
  have decoded := (readsAs_string signature.spelling).required decoded rfl
  rw [List.map_id'] at decoded
  cases decoded
  rfl

theorem readsAs_callable
    (callable : Callable) :
    ReadsAs encodeCallable decodeCallable callable callable := by
  intro read decoded
  rw [decodeCallable, encodeCallable] at decoded
  have decoded := of_record decoded rfl (by decide)
  have decoded := (readsAs_signature callable.signature).required decoded rfl
  have decoded := (readsAs_ofOption callable.doc).optional decoded rfl
  have decoded := (readsAs_bool callable.isStatic).defaulted decoded rfl
  have decoded := (readsAs_string callable.cppSignature).required decoded rfl
  have decoded := (readsAs_location callable.location).required decoded rfl
  cases decoded
  rfl

theorem readsAs_callables
    (callables : List Callable) :
    ReadsAs encodeCallables (list? decodeCallable) callables callables := by
  have readsAs := readsAs_list readsAs_callable callables
  rw [List.map_id'] at readsAs
  exact readsAs

theorem readsAs_constant
    (constant : Constant) :
    ReadsAs encodeConstant decodeConstant constant constant := by
  intro read decoded
  rw [decodeConstant, encodeConstant] at decoded
  have decoded := of_record decoded rfl (by decide)
  have decoded := (readsAs_string constant.name).required decoded rfl
  have decoded := (readsAs_type constant.type).required decoded rfl
  have decoded :=
    (readsAs_option encodeLiteral_not_null readsAs_literal constant.value).optional decoded rfl
  have decoded := (readsAs_location constant.location).required decoded rfl
  cases decoded
  rfl

theorem readsAs_property
    (property : Property) :
    ReadsAs encodeProperty decodeProperty property property := by
  intro read decoded
  rw [decodeProperty, encodeProperty] at decoded
  have decoded := of_record decoded rfl (by decide)
  have decoded := (readsAs_string property.name).required decoded rfl
  have decoded := (readsAs_ofOption property.doc).optional decoded rfl
  have decoded :=
    (readsAs_option encodeType_not_null readsAs_type property.getterType).optional decoded rfl
  have decoded :=
    (readsAs_option encodeType_not_null readsAs_type property.setterType).optional decoded rfl
  have decoded := (readsAs_ofOption property.setterParameter).optional decoded rfl
  have decoded := (readsAs_location property.location).required decoded rfl
  cases decoded
  rfl

theorem readsAs_rule
    (rule : TypeRule) :
    ReadsAs encodeRule decodeRule rule rule := by
  intro read decoded
  rw [decodeRule, encodeRule] at decoded
  have decoded := of_record decoded rfl (by decide)
  have decoded := (readsAs_type rule.pattern).required decoded rfl
  have decoded := (readsAs_string rule.rendering).required decoded rfl
  have decoded := (readsAs_list readsAs_string rule.parameters).required decoded rfl
  have decoded := (readsAs_list readsAs_string rule.declarations).required decoded rfl
  have decoded := (readsAs_location rule.location).required decoded rfl
  simp only [List.map_id'] at decoded
  cases decoded
  rfl

end Interchange

/-! ## Entities and models -/

namespace Keyed

/-- A keyed list as it is read: the entries are inserted one after the other. -/
def asRead
    {α : Type}
    (keyed : Keyed α) :
    Keyed α :=
  ofList keyed.entries

end Keyed

/-- A module as it is read. -/
def Module.asRead
    (entity : Module) :
    Module :=
  { entity with
    innerClasses := entity.innerClasses.asRead
    innerEnums := entity.innerEnums.asRead
    functions := entity.functions.asRead
    constants := entity.constants.asRead }

/-- A class as it is read. -/
def Class.asRead
    (entity : Class) :
    Class :=
  { entity with
    innerClasses := entity.innerClasses.asRead
    innerEnums := entity.innerEnums.asRead
    methods := entity.methods.asRead
    properties := entity.properties.asRead
    constants := entity.constants.asRead
    implicitSources := entity.implicitSources.foldl insertSource [] }

/-- An enum as it is read. -/
def Enumeration.asRead
    (entity : Enumeration) :
    Enumeration :=
  { entity with values := entity.values.asRead }

/-- A model as it is read, without its tables. -/
def BindingModel.asRead
    (model : BindingModel) :
    BindingModel :=
  { modules := model.modules.map Module.asRead
    classes := model.classes.map Class.asRead
    enums := model.enums.map Enumeration.asRead
    rules := model.rules.asRead }

namespace Interchange

open Json

theorem readsAs_module
    (entity : Module) :
    ReadsAs encodeModule decodeModule entity entity.asRead := by
  intro read decoded
  rw [decodeModule, encodeModule] at decoded
  have decoded := of_record decoded rfl (by decide)
  have decoded := (readsAs_string entity.cppName).required decoded rfl
  have decoded := (readsAs_string entity.pythonName).required decoded rfl
  have decoded := (readsAs_ofOption entity.doc).optional decoded rfl
  have decoded := (readsAs_ofOption entity.qualifiedName).optional decoded rfl
  have decoded := (readsAs_keyed readsAs_location entity.innerClasses).required decoded rfl
  have decoded := (readsAs_keyed readsAs_location entity.innerEnums).required decoded rfl
  have decoded := (readsAs_keyed readsAs_callables entity.functions).required decoded rfl
  have decoded := (readsAs_keyed readsAs_constant entity.constants).required decoded rfl
  have decoded :=
    (readsAs_option encodeLocation_not_null readsAs_location entity.declaredAt).optional decoded rfl
  have decoded := (readsAs_bool entity.imported).defaulted decoded rfl
  cases decoded
  rfl

theorem readsAs_class
    (entity : Class) :
    ReadsAs encodeClass decodeClass entity entity.asRead := by
  intro read decoded
  rw [decodeClass, encodeClass] at decoded
  have decoded := of_record decoded rfl (by decide)
  have decoded := (readsAs_string entity.pythonName).required decoded rfl
  have decoded := (readsAs_string entity.shadowKey).required decoded rfl
  have decoded := (readsAs_type entity.cppType).required decoded rfl
  have decoded := (readsAs_ofOption entity.parentKey).optional decoded rfl
  have decoded := (readsAs_ofOption entity.doc).optional decoded rfl
  have decoded := (readsAs_ofOption entity.qualifiedName).optional decoded rfl
  have decoded := (readsAs_keyed readsAs_location entity.innerClasses).required decoded rfl
  have decoded := (readsAs_keyed readsAs_location entity.innerEnums).required decoded rfl
  have decoded := (readsAs_callables entity.constructors).required decoded rfl
  have decoded := (readsAs_keyed readsAs_callables entity.methods).required decoded rfl
  have decoded := (readsAs_keyed readsAs_property entity.properties).required decoded rfl
  have decoded := (readsAs_keyed readsAs_constant entity.constants).required decoded rfl
  have decoded := (readsAs_typeList entity.implicitSources).required decoded rfl
  have decoded :=
    (readsAs_option encodeLocation_not_null readsAs_location entity.declaredAt).optional decoded rfl
  have decoded := (readsAs_bool entity.imported).defaulted decoded rfl
  cases decoded
  rfl

theorem readsAs_enum
    (entity : Enumeration) :
    ReadsAs encodeEnum decodeEnum entity entity.asRead := by
  intro read decoded
  rw [decodeEnum, encodeEnum] at decoded
  have decoded := of_record decoded rfl (by decide)
  have decoded := (readsAs_string entity.pythonName).required decoded rfl
  have decoded := (readsAs_string entity.cppName).required decoded rfl
  have decoded := (readsAs_valueKind entity.valueKind).required decoded rfl
  have decoded :=
    (readsAs_keyed (readsAs_option encodeLiteral_not_null readsAs_literal)
      entity.values).required decoded rfl
  have decoded := (readsAs_ofOption entity.doc).optional decoded rfl
  have decoded := (readsAs_ofOption entity.qualifiedName).optional decoded rfl
  have decoded :=
    (readsAs_option encodeLocation_not_null readsAs_location entity.declaredAt).optional decoded rfl
  have decoded := (readsAs_bool entity.imported).defaulted decoded rfl
  cases decoded
  rfl

/-- A model is read as it was written, without its tables. -/
theorem readsAs_model
    (model : BindingModel) :
    ReadsAs encodeModel decodeModel model model.asRead := by
  have readsAs_rules :
      ∀ rules : List TypeRule,
        ReadsAs (fun rules => .array (rules.map encodeRule)) (list? decodeRule) rules rules := by
    intro rules
    have readsAs := readsAs_list readsAs_rule rules
    rw [List.map_id'] at readsAs
    exact readsAs
  intro read decoded
  rw [decodeModel, encodeModel] at decoded
  have decoded := of_record decoded rfl (by decide)
  have decoded := (readsAs_list readsAs_module model.modules).required decoded rfl
  have decoded := (readsAs_list readsAs_class model.classes).required decoded rfl
  have decoded := (readsAs_list readsAs_enum model.enums).required decoded rfl
  have decoded := (readsAs_keyed readsAs_rules model.rules).required decoded rfl
  cases decoded
  rfl

/-! ## What is written is plain -/

@[simp] theorem plain_encodeLocation
    (location : Location) :
    Plain (encodeLocation location) := by
  simp [encodeLocation]

@[simp] theorem plain_encodeOption
    {α : Type}
    {encode : α → Json}
    (each : ∀ value, Plain (encode value))
    (value : Option α) :
    Plain (encodeOption encode value) := by
  cases value <;> simp [encodeOption, each]

@[simp] theorem plain_encodeKeyed
    {α : Type}
    {encode : α → Json}
    (each : ∀ value, Plain (encode value))
    (keyed : Keyed α) :
    Plain (encodeKeyed encode keyed) := by
  refine .object fun field member => ?_
  obtain ⟨entry, _, rfl⟩ := List.mem_map.mp member
  exact each entry.2

@[simp] theorem plain_encodeType
    (type : CppType) :
    Plain (encodeType type) := by
  induction type using CppType.recurse with
  | plain name => simp [encodeType]
  | applied name arguments inductionHypothesis =>
      simpa [encodeType, encodeTypes_eq_map] using inductionHypothesis

@[simp] theorem plain_encodeLiteral
    (literal : Literal) :
    Plain (encodeLiteral literal) := by
  cases literal <;> simp [encodeLiteral]

@[simp] theorem plain_encodeParameter
    (parameter : Parameter) :
    Plain (encodeParameter parameter) := by
  simp [encodeParameter]

@[simp] theorem plain_encodeSignature
    (signature : Signature) :
    Plain (encodeSignature signature) := by
  simp [encodeSignature]

@[simp] theorem plain_encodeCallable
    (callable : Callable) :
    Plain (encodeCallable callable) := by
  simp [encodeCallable]

@[simp] theorem plain_encodeCallables
    (callables : List Callable) :
    Plain (encodeCallables callables) := by
  simp [encodeCallables]

@[simp] theorem plain_encodeConstant
    (constant : Constant) :
    Plain (encodeConstant constant) := by
  simp [encodeConstant]

@[simp] theorem plain_encodeProperty
    (property : Property) :
    Plain (encodeProperty property) := by
  simp [encodeProperty]

@[simp] theorem plain_encodeModule
    (entity : Module) :
    Plain (encodeModule entity) := by
  simp [encodeModule]

@[simp] theorem plain_encodeClass
    (entity : Class) :
    Plain (encodeClass entity) := by
  simp [encodeClass, encodeTypes_eq_map]

@[simp] theorem plain_encodeEnum
    (entity : Enumeration) :
    Plain (encodeEnum entity) := by
  simp [encodeEnum]

@[simp] theorem plain_encodeRule
    (rule : TypeRule) :
    Plain (encodeRule rule) := by
  simp [encodeRule]

@[simp] theorem plain_encodeModel
    (model : BindingModel) :
    Plain (encodeModel model) := by
  simp [encodeModel]

/-- A model is read from its text, in either layout, as it was written. -/
theorem eq_asRead_of_decoded
    {model read : BindingModel}
    {text : String}
    {value : Json}
    (isText : text = (encodeModel model).compact ∨ text = (encodeModel model).pretty)
    (parsed : Json.parse? text.toList = some value)
    (decoded : decodeModel value = some read) :
    read = model.asRead := by
  have plain := plain_encodeModel model
  have reread : value = Json.reread (encodeModel model) := by
    rcases isText with rfl | rfl
    · rw [Json.parse?_compact plain] at parsed
      exact (Option.some.inj parsed).symm
    · rw [Json.parse?_pretty plain] at parsed
      exact (Option.some.inj parsed).symm
  rw [reread] at decoded
  exact readsAs_model model read decoded

/-- A list of strings is read as it is. -/
theorem readsAs_strings
    (texts : List String) :
    ReadsAs Json.ofStrings (list? string?) texts texts := by
  have readsAs := readsAs_list readsAs_string texts
  rw [List.map_id'] at readsAs
  exact readsAs

end Interchange

namespace Artifact

open Interchange

/-- An artifact is read from its text with the same version and the model as it is read, and
with new tables. -/
theorem ofText?_text
    {artifact loaded : Artifact}
    (isLoaded : ofText? artifact.text = some loaded) :
    loaded.toolVersion = artifact.toolVersion ∧
      loaded.model = artifact.model.asRead.reindex ∧
      loaded.dependencies = artifact.dependencies.asRead := by
  have plain : Json.Plain artifact.encode := by simp [encode]
  simp only [ofText?, text, Json.parse?_pretty plain, Option.bind_eq_bind, Option.bind_some,
    Option.bind_eq_some_iff] at isLoaded
  obtain ⟨read, decoded, isRead⟩ := isLoaded
  rw [decode, encode] at decoded
  have decoded := of_record decoded rfl (by decide)
  have decoded := (readsAs_string artifact.toolVersion).required decoded rfl
  have decoded := (readsAs_model artifact.model).required decoded rfl
  have decoded := (readsAs_keyed readsAs_strings artifact.dependencies).required decoded rfl
  cases decoded
  cases isRead
  exact ⟨rfl, rfl, rfl⟩

end Artifact

end BindingStubs
