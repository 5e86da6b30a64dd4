import BindingStubs.Proofs.Model.Interchange

namespace BindingStubs

/-!
# Models that can be read

What is read from a written model is that model.  It is read at all if the lines and columns of
its locations have the width that locations are read with; nothing else in a model can be refused.
-/

/-- The line and the column of a location have 32 bits. -/
def Location.Fits
    (location : Location) :
    Prop :=
  location.line < Width.limit 32 ∧ location.column < Width.limit 32

instance
    (location : Location) :
    Decidable location.Fits :=
  inferInstanceAs (Decidable (_ ∧ _))

/-- The locations that a module names. -/
def Module.locations
    (entity : Module) :
    List Location :=
  entity.innerClasses.values ++ entity.innerEnums.values ++
    entity.functions.values.flatten.map Callable.location ++
    entity.constants.values.map Constant.location ++ entity.declaredAt.toList

/-- The locations that a class names. -/
def Class.locations
    (entity : Class) :
    List Location :=
  entity.innerClasses.values ++ entity.innerEnums.values ++
    entity.constructors.map Callable.location ++
    entity.methods.values.flatten.map Callable.location ++
    entity.properties.values.map Property.location ++
    entity.constants.values.map Constant.location ++ entity.declaredAt.toList

/-- The locations that an enum names. -/
def Enumeration.locations
    (entity : Enumeration) :
    List Location :=
  entity.declaredAt.toList

/-- The locations that a model names. -/
def BindingModel.locations
    (model : BindingModel) :
    List Location :=
  model.modules.flatMap Module.locations ++ model.classes.flatMap Class.locations ++
    model.enums.flatMap Enumeration.locations ++ model.allRules.map TypeRule.location

namespace Interchange

open Json

/-- The written form of a value is read. -/
def Readable
    {α : Type}
    (encode : α → Json)
    (decode : Json → Option α)
    (value : α) :
    Prop :=
  ∃ read, decode (reread (encode value)) = some read

/-- A written object is a record that can be read if what follows can be read from its fields. -/
theorem exists_of_record
    {α : Type}
    {names : List String}
    {fields : List (String × Json)}
    {next : Record → Option α}
    (sameNames : fields.map Prod.fst = names)
    (distinct : names.Nodup)
    (rest : ∃ read, next (readRecord fields) = some read) :
    ∃ read, (record? names (reread (.object fields))).bind next = some read := by
  have sameReadNames :
      (fields.map fun field => (field.1, reread field.2)).map Prod.fst = names := by
    simpa [Function.comp_def] using sameNames
  rw [reread, rereadFields_eq_map, record?_object sameReadNames distinct]
  exact rest

section Fields

variable
  {α β : Type}
  {decode : Json → Option α}
  {fields : List (String × Json)}
  {name : String}

/-- A required field that can be read is followed by the next. -/
theorem Readable.required
    {encode : α → Json}
    {value : α}
    (readable : Readable encode decode value)
    (found : fields.lookup name = some (encode value))
    {next : α → Option β}
    (rest : ∀ part, ∃ whole, next part = some whole) :
    ∃ whole, ((readRecord fields).required name decode).bind next = some whole := by
  obtain ⟨part, decoded⟩ := readable
  rw [Record.required, lookup_readRecord, found, Option.map_some, Option.bind_some, decoded]
  exact rest part

theorem Readable.defaulted
    {encode : α → Json}
    {value : α}
    (readable : Readable encode decode value)
    (found : fields.lookup name = some (encode value))
    {fallback : α}
    {next : α → Option β}
    (rest : ∀ part, ∃ whole, next part = some whole) :
    ∃ whole, ((readRecord fields).defaulted name fallback decode).bind next = some whole := by
  obtain ⟨part, decoded⟩ := readable
  rw [Record.defaulted, lookup_readRecord, found, Option.map_some]
  simpa only [decoded, Option.bind_some] using rest part

theorem Readable.optional
    {encode : Option α → Json}
    {value : Option α}
    (readable : Readable encode (Record.nullable decode) value)
    (found : fields.lookup name = some (encode value))
    {next : Option α → Option β}
    (rest : ∀ part, ∃ whole, next part = some whole) :
    ∃ whole, ((readRecord fields).optional name decode).bind next = some whole := by
  obtain ⟨part, decoded⟩ := readable
  rw [Record.optional, lookup_readRecord, found, Option.map_some]
  simpa only [decoded, Option.bind_some] using rest part

end Fields

/-! ## Values without fields of their own -/

theorem readable_string
    (text : String) :
    Readable Json.string string? text :=
  ⟨text, rfl⟩

theorem readable_bool
    (value : Bool) :
    Readable Json.bool bool? value :=
  ⟨value, rfl⟩

theorem readable_ofOption
    (text : Option String) :
    Readable Json.ofOption (Record.nullable string?) text := by
  cases text with
  | none => exact ⟨none, rfl⟩
  | some text => exact ⟨some text, rfl⟩

theorem readable_below
    {limit value : Nat}
    (isBelow : value < limit)
    (narrow : limit ≤ Width.limit 64) :
    Readable Json.ofNat (below? limit) value :=
  ⟨value, below?_numeralOf_of_lt isBelow narrow⟩

theorem readable_option
    {α : Type}
    {encode : α → Json}
    {decode : Json → Option α}
    {value : Option α}
    (each : ∀ part ∈ value, Readable encode decode part) :
    Readable (encodeOption encode) (Record.nullable decode) value := by
  cases value with
  | none => exact ⟨none, rfl⟩
  | some part =>
      obtain ⟨read, decoded⟩ := each part rfl
      rw [Readable, encodeOption]
      cases written : reread (encode part) with
      | null => exact ⟨none, rfl⟩
      | bool | number | string | array | object | unreadable =>
          rw [written] at decoded
          exact ⟨some read, by simp [Record.nullable, decoded]⟩

theorem exists_mapM
    {α β : Type}
    {read? : α → Option β}
    {items : List α}
    (each : ∀ item ∈ items, ∃ read, read? item = some read) :
    ∃ read, items.mapM read? = some read := by
  induction items with
  | nil => exact ⟨[], rfl⟩
  | cons item rest inductionHypothesis =>
      obtain ⟨first, readFirst⟩ := each item (List.mem_cons_self ..)
      obtain ⟨others, readOthers⟩ :=
        inductionHypothesis fun other member => each other (List.mem_cons_of_mem _ member)
      exact ⟨first :: others, by simp [readFirst, readOthers]⟩

theorem readable_list
    {α : Type}
    {encode : α → Json}
    {decode : Json → Option α}
    {values : List α}
    (each : ∀ value ∈ values, Readable encode decode value) :
    Readable (fun values => .array (values.map encode)) (list? decode) values := by
  simp only [Readable, reread, rereadItems_eq_map, list?, List.map_map]
  refine exists_mapM fun item member => ?_
  obtain ⟨value, valueMember, rfl⟩ := List.mem_map.mp member
  exact each value valueMember

theorem readable_keyed
    {α : Type}
    {encode : α → Json}
    {decode : Json → Option α}
    {keyed : Keyed α}
    (each : ∀ value ∈ keyed.values, Readable encode decode value) :
    Readable (encodeKeyed encode) (decodeKeyed decode) keyed := by
  have entriesRead :
      ∃ entries, entries? decode (reread (encodeKeyed encode keyed)) = some entries := by
    simp only [encodeKeyed, reread, rereadFields_eq_map, entries?, List.map_map]
    refine exists_mapM fun field member => ?_
    obtain ⟨entry, entryMember, rfl⟩ := List.mem_map.mp member
    obtain ⟨read, decoded⟩ := each entry.2 (List.mem_map_of_mem entryMember)
    exact ⟨(entry.1, read), by simp [decoded]⟩
  obtain ⟨entries, decoded⟩ := entriesRead
  exact ⟨Keyed.ofList entries, by rw [decodeKeyed, decoded, Option.map_some]⟩

/-! ## Types, literals and records -/

theorem readable_type
    (type : CppType) :
    Readable encodeType decodeType type :=
  ⟨type, decodeType_encodeType type⟩

theorem readable_typeList
    (types : List CppType) :
    Readable (fun types => .array (encodeTypes types)) decodeTypeList types := by
  simp only [Readable, reread, encodeTypes_eq_map, rereadItems_eq_map, decodeTypeList,
    decodeTypes_eq_mapM, List.map_map]
  refine exists_mapM fun item member => ?_
  obtain ⟨type, _, rfl⟩ := List.mem_map.mp member
  exact readable_type type

theorem readable_literal
    (literal : Literal) :
    Readable encodeLiteral decodeLiteral literal := by
  cases literal <;> exact ⟨_, rfl⟩

theorem readable_valueKind
    (kind : ValueKind) :
    Readable (fun kind => .string (valueKindWord kind)) decodeValueKind kind := by
  cases kind <;> exact ⟨_, rfl⟩

theorem readable_strings
    (texts : List String) :
    Readable Json.ofStrings (list? string?) texts :=
  readable_list fun text _ => readable_string text

theorem readable_location
    {location : Location}
    (fits : location.Fits) :
    Readable encodeLocation decodeLocation location := by
  have narrow : Width.limit 32 ≤ Width.limit 64 := by decide
  rw [Readable, decodeLocation, encodeLocation]
  refine exists_of_record rfl (by decide) ?_
  refine (readable_string location.file).required rfl fun _ => ?_
  refine (readable_below fits.1 narrow).required rfl fun _ => ?_
  refine (readable_below fits.2 narrow).required rfl fun _ => ?_
  exact ⟨_, rfl⟩

theorem readable_declaration
    {declaredAt : Option Location}
    (fits : ∀ location ∈ declaredAt.toList, location.Fits) :
    Readable (encodeOption encodeLocation) (Record.nullable decodeLocation) declaredAt :=
  readable_option fun location isLocation =>
    readable_location (fits location (Option.mem_toList.mpr isLocation))

theorem readable_placements
    {placements : Placements}
    (fits : ∀ location ∈ placements.values, location.Fits) :
    Readable (encodeKeyed encodeLocation) (decodeKeyed decodeLocation) placements :=
  readable_keyed fun location member => readable_location (fits location member)

theorem readable_parameter
    (parameter : Parameter) :
    Readable encodeParameter decodeParameter parameter := by
  rw [Readable, decodeParameter, encodeParameter]
  refine exists_of_record rfl (by decide) ?_
  refine (readable_string parameter.name).required rfl fun _ => ?_
  refine (readable_type parameter.type).required rfl fun _ => ?_
  exact ⟨_, rfl⟩

theorem readable_signature
    (signature : Signature) :
    Readable encodeSignature decodeSignature signature := by
  have readable_parameters :
      Readable (fun parameters => .array (parameters.map encodeParameter)) (list? decodeParameter)
        signature.parameters :=
    readable_list fun parameter _ => readable_parameter parameter
  rw [Readable, decodeSignature, encodeSignature]
  refine exists_of_record rfl (by decide) ?_
  refine Readable.optional (readable_option fun type _ => readable_type type) rfl fun _ => ?_
  refine readable_parameters.required rfl fun _ => ?_
  refine (readable_string signature.spelling).required rfl fun _ => ?_
  exact ⟨_, rfl⟩

theorem readable_callable
    {callable : Callable}
    (fits : callable.location.Fits) :
    Readable encodeCallable decodeCallable callable := by
  rw [Readable, decodeCallable, encodeCallable]
  refine exists_of_record rfl (by decide) ?_
  refine (readable_signature callable.signature).required rfl fun _ => ?_
  refine (readable_ofOption callable.doc).optional rfl fun _ => ?_
  refine (readable_bool callable.isStatic).defaulted rfl fun _ => ?_
  refine (readable_string callable.cppSignature).required rfl fun _ => ?_
  refine (readable_location fits).required rfl fun _ => ?_
  exact ⟨_, rfl⟩

theorem readable_callables
    {callables : List Callable}
    (fits : ∀ location ∈ callables.map Callable.location, location.Fits) :
    Readable encodeCallables (list? decodeCallable) callables :=
  readable_list fun _ member => readable_callable (fits _ (List.mem_map_of_mem member))

theorem readable_groups
    {groups : Keyed (List Callable)}
    (fits : ∀ location ∈ groups.values.flatten.map Callable.location, location.Fits) :
    Readable (encodeKeyed encodeCallables) (decodeKeyed (list? decodeCallable)) groups := by
  refine readable_keyed fun callables member => readable_callables fun location inGroup => ?_
  obtain ⟨callable, callableMember, rfl⟩ := List.mem_map.mp inGroup
  exact fits _ (List.mem_map_of_mem (List.mem_flatten_of_mem member callableMember))

theorem readable_constant
    {constant : Constant}
    (fits : constant.location.Fits) :
    Readable encodeConstant decodeConstant constant := by
  rw [Readable, decodeConstant, encodeConstant]
  refine exists_of_record rfl (by decide) ?_
  refine (readable_string constant.name).required rfl fun _ => ?_
  refine (readable_type constant.type).required rfl fun _ => ?_
  refine Readable.optional (readable_option fun value _ => readable_literal value) rfl fun _ => ?_
  refine (readable_location fits).required rfl fun _ => ?_
  exact ⟨_, rfl⟩

theorem readable_constants
    {constants : Keyed Constant}
    (fits : ∀ location ∈ constants.values.map Constant.location, location.Fits) :
    Readable (encodeKeyed encodeConstant) (decodeKeyed decodeConstant) constants :=
  readable_keyed fun _ member => readable_constant (fits _ (List.mem_map_of_mem member))

theorem readable_property
    {property : Property}
    (fits : property.location.Fits) :
    Readable encodeProperty decodeProperty property := by
  rw [Readable, decodeProperty, encodeProperty]
  refine exists_of_record rfl (by decide) ?_
  refine (readable_string property.name).required rfl fun _ => ?_
  refine (readable_ofOption property.doc).optional rfl fun _ => ?_
  refine Readable.optional (readable_option fun type _ => readable_type type) rfl fun _ => ?_
  refine Readable.optional (readable_option fun type _ => readable_type type) rfl fun _ => ?_
  refine (readable_ofOption property.setterParameter).optional rfl fun _ => ?_
  refine (readable_location fits).required rfl fun _ => ?_
  exact ⟨_, rfl⟩

theorem readable_rule
    {rule : TypeRule}
    (fits : rule.location.Fits) :
    Readable encodeRule decodeRule rule := by
  rw [Readable, decodeRule, encodeRule]
  refine exists_of_record rfl (by decide) ?_
  refine (readable_type rule.pattern).required rfl fun _ => ?_
  refine (readable_string rule.rendering).required rfl fun _ => ?_
  refine (readable_strings rule.parameters).required rfl fun _ => ?_
  refine (readable_strings rule.declarations).required rfl fun _ => ?_
  refine (readable_location fits).required rfl fun _ => ?_
  exact ⟨_, rfl⟩

/-! ## Entities and models -/

theorem readable_module
    {entity : Module}
    (fits : ∀ location ∈ entity.locations, location.Fits) :
    Readable encodeModule decodeModule entity := by
  simp only [Module.locations, List.forall_mem_append] at fits
  obtain ⟨⟨⟨⟨classesFit, enumsFit⟩, functionsFit⟩, constantsFit⟩, declarationFits⟩ := fits
  rw [Readable, decodeModule, encodeModule]
  refine exists_of_record rfl (by decide) ?_
  refine (readable_string entity.cppName).required rfl fun _ => ?_
  refine (readable_string entity.pythonName).required rfl fun _ => ?_
  refine (readable_ofOption entity.doc).optional rfl fun _ => ?_
  refine (readable_ofOption entity.qualifiedName).optional rfl fun _ => ?_
  refine (readable_placements classesFit).required rfl fun _ => ?_
  refine (readable_placements enumsFit).required rfl fun _ => ?_
  refine (readable_groups functionsFit).required rfl fun _ => ?_
  refine (readable_constants constantsFit).required rfl fun _ => ?_
  refine (readable_declaration declarationFits).optional rfl fun _ => ?_
  refine (readable_bool entity.imported).defaulted rfl fun _ => ?_
  exact ⟨_, rfl⟩

theorem readable_class
    {entity : Class}
    (fits : ∀ location ∈ entity.locations, location.Fits) :
    Readable encodeClass decodeClass entity := by
  simp only [Class.locations, List.forall_mem_append] at fits
  obtain ⟨⟨⟨⟨⟨⟨classesFit, enumsFit⟩, constructorsFit⟩, methodsFit⟩, propertiesFit⟩,
    constantsFit⟩, declarationFits⟩ := fits
  have readable_properties :
      Readable (encodeKeyed encodeProperty) (decodeKeyed decodeProperty) entity.properties :=
    readable_keyed fun _ member => readable_property (propertiesFit _ (List.mem_map_of_mem member))
  rw [Readable, decodeClass, encodeClass]
  refine exists_of_record rfl (by decide) ?_
  refine (readable_string entity.pythonName).required rfl fun _ => ?_
  refine (readable_string entity.shadowKey).required rfl fun _ => ?_
  refine (readable_type entity.cppType).required rfl fun _ => ?_
  refine (readable_ofOption entity.parentKey).optional rfl fun _ => ?_
  refine (readable_ofOption entity.doc).optional rfl fun _ => ?_
  refine (readable_ofOption entity.qualifiedName).optional rfl fun _ => ?_
  refine (readable_placements classesFit).required rfl fun _ => ?_
  refine (readable_placements enumsFit).required rfl fun _ => ?_
  refine (readable_callables constructorsFit).required rfl fun _ => ?_
  refine (readable_groups methodsFit).required rfl fun _ => ?_
  refine readable_properties.required rfl fun _ => ?_
  refine (readable_constants constantsFit).required rfl fun _ => ?_
  refine (readable_typeList entity.implicitSources).required rfl fun _ => ?_
  refine (readable_declaration declarationFits).optional rfl fun _ => ?_
  refine (readable_bool entity.imported).defaulted rfl fun _ => ?_
  exact ⟨_, rfl⟩

theorem readable_enum
    {entity : Enumeration}
    (fits : ∀ location ∈ entity.locations, location.Fits) :
    Readable encodeEnum decodeEnum entity := by
  have readable_values :
      Readable (encodeKeyed (encodeOption encodeLiteral))
        (decodeKeyed (Record.nullable decodeLiteral)) entity.values :=
    readable_keyed fun _ _ => readable_option fun value _ => readable_literal value
  rw [Readable, decodeEnum, encodeEnum]
  refine exists_of_record rfl (by decide) ?_
  refine (readable_string entity.pythonName).required rfl fun _ => ?_
  refine (readable_string entity.cppName).required rfl fun _ => ?_
  refine (readable_valueKind entity.valueKind).required rfl fun _ => ?_
  refine readable_values.required rfl fun _ => ?_
  refine (readable_ofOption entity.doc).optional rfl fun _ => ?_
  refine (readable_ofOption entity.qualifiedName).optional rfl fun _ => ?_
  refine (readable_declaration fits).optional rfl fun _ => ?_
  refine (readable_bool entity.imported).defaulted rfl fun _ => ?_
  exact ⟨_, rfl⟩

/-- A written model is read if its locations fit. -/
theorem readable_model
    {model : BindingModel}
    (fits : ∀ location ∈ model.locations, location.Fits) :
    Readable encodeModel decodeModel model := by
  simp only [BindingModel.locations, List.forall_mem_append] at fits
  obtain ⟨⟨⟨modulesFit, classesFit⟩, enumsFit⟩, rulesFit⟩ := fits
  have readable_modules :=
    readable_list fun entity member => readable_module fun location inEntity =>
      modulesFit location (List.mem_flatMap_of_mem member inEntity)
  have readable_classes :=
    readable_list fun entity member => readable_class fun location inEntity =>
      classesFit location (List.mem_flatMap_of_mem member inEntity)
  have readable_enums :=
    readable_list fun entity member => readable_enum fun location inEntity =>
      enumsFit location (List.mem_flatMap_of_mem member inEntity)
  have readable_rules :
      Readable (encodeKeyed fun rules => .array (rules.map encodeRule))
        (decodeKeyed (list? decodeRule)) model.rules :=
    readable_keyed fun rules member => readable_list fun rule ruleMember =>
      readable_rule (rulesFit _ (List.mem_map_of_mem (List.mem_flatten_of_mem member ruleMember)))
  rw [Readable, decodeModel, encodeModel]
  refine exists_of_record rfl (by decide) ?_
  refine readable_modules.required rfl fun _ => ?_
  refine readable_classes.required rfl fun _ => ?_
  refine readable_enums.required rfl fun _ => ?_
  refine readable_rules.required rfl fun _ => ?_
  exact ⟨_, rfl⟩

end Interchange

namespace Artifact

open Interchange

/-- The text of an artifact whose locations fit is read. -/
theorem exists_ofText?_text
    {artifact : Artifact}
    (fits : ∀ location ∈ artifact.model.locations, location.Fits) :
    ∃ loaded, ofText? artifact.text = some loaded := by
  have plain : Json.Plain artifact.encode := by simp [encode]
  have readable_dependencies :
      Readable (encodeKeyed Json.ofStrings) (decodeKeyed (Json.list? Json.string?))
        artifact.dependencies :=
    readable_keyed fun files _ => readable_strings files
  have decoded : ∃ read, decode (Json.reread artifact.encode) = some read := by
    rw [decode, encode]
    refine exists_of_record rfl (by decide) ?_
    refine (readable_string artifact.toolVersion).required rfl fun _ => ?_
    refine (readable_model fits).required rfl fun _ => ?_
    refine readable_dependencies.required rfl fun _ => ?_
    exact ⟨_, rfl⟩
  obtain ⟨read, isRead⟩ := decoded
  refine ⟨{ read with model := read.model.reindex }, ?_⟩
  simp [ofText?, text, Json.parse?_pretty plain, isRead]

end Artifact

end BindingStubs
