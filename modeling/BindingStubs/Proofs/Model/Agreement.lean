import BindingStubs.Proofs.Model.Entries

namespace BindingStubs

/-!
# Models that agree up to the order of discovery

Two models agree when they have the same entities with the same declarations and the same
members, and the same rules up to parameter names.  Lists may differ in order, and a
property may differ in what only the first of its registrations decides.  Contents that are
alike make up models that agree.
-/

/-- Overload groups of the same names with the same overloads in some order. -/
def SameOverloads
    (one other : Keyed (List Callable)) :
    Prop :=
  ∀ name, Option.Rel List.Perm (one.get? name) (other.get? name)

/-- Properties of the same names with the same getter and setter types. -/
def SamePropertyTypes
    (one other : Keyed Property) :
    Prop :=
  ∀ name,
    (one.get? name).map (fun property => (property.getterType, property.setterType)) =
      (other.get? name).map fun property => (property.getterType, property.setterType)

/-- Modules with the same declaration and, up to order, the same members. -/
structure Module.Agrees
    (one other : Module) : Prop where
  cppName : one.cppName = other.cppName
  pythonName : one.pythonName = other.pythonName
  doc : one.doc = other.doc
  qualifiedName : one.qualifiedName = other.qualifiedName
  declaredAt : one.declaredAt = other.declaredAt
  imported : one.imported = other.imported
  innerClasses : one.innerClasses.entries.Perm other.innerClasses.entries
  innerEnums : one.innerEnums.entries.Perm other.innerEnums.entries
  functions : SameOverloads one.functions other.functions
  constants : one.constants.entries.Perm other.constants.entries

/-- Classes with the same keys, declaration and, up to order, the same members. -/
structure Class.Agrees
    (one other : Class) : Prop where
  shadowKey : one.shadowKey = other.shadowKey
  cppType : one.cppType = other.cppType
  pythonName : one.pythonName = other.pythonName
  doc : one.doc = other.doc
  parentKey : one.parentKey = other.parentKey
  qualifiedName : one.qualifiedName = other.qualifiedName
  declaredAt : one.declaredAt = other.declaredAt
  imported : one.imported = other.imported
  innerClasses : one.innerClasses.entries.Perm other.innerClasses.entries
  innerEnums : one.innerEnums.entries.Perm other.innerEnums.entries
  constructors : one.constructors.Perm other.constructors
  methods : SameOverloads one.methods other.methods
  properties : SamePropertyTypes one.properties other.properties
  constants : one.constants.entries.Perm other.constants.entries
  implicitSources : one.implicitSources.Perm other.implicitSources

/-- A rule up to parameter names, with its bucket and the number of its parameters. -/
def TypeRule.upToNames
    (rule : TypeRule) :
    String × Nat × TypeRule.CanonicalForm :=
  (rule.bucketKey, rule.parameters.length, rule.canonicalForm)

/-- Models with the same entities and the same rules up to order and parameter names. -/
structure BindingModel.Agrees
    (one other : BindingModel) : Prop where
  moduleKeys :
    (one.modules.map Module.cppName).Perm (other.modules.map Module.cppName)
  modules :
    ∀ cppName, Option.Rel Module.Agrees (one.module? cppName) (other.module? cppName)
  classKeys :
    (one.classes.map Class.keys).Perm (other.classes.map Class.keys)
  classes :
    ∀ shadowKey, Option.Rel Class.Agrees (one.class? shadowKey) (other.class? shadowKey)
  classesByType :
    ∀ cppType,
      Option.Rel Class.Agrees (one.classForType? cppType) (other.classForType? cppType)
  enumKeys :
    (one.enums.map Enumeration.cppName).Perm (other.enums.map Enumeration.cppName)
  enums :
    ∀ cppName, one.enum? cppName = other.enum? cppName
  rules :
    (one.allRules.map TypeRule.upToNames).Perm (other.allRules.map TypeRule.upToNames)

theorem beq_of_beq_both
    {Key : Type}
    [DecidableEq Key]
    {one other wanted : Key}
    (first : (one == wanted) = true)
    (second : (other == wanted) = true) :
    (one == other) = true := by
  rw [beq_iff_eq] at *
  exact first.trans second.symm

namespace Joining

variable {Part : Type} {combining : Combining Part} {Fits : String → Part → Prop}

/-- Lookups in reordered keyed lists find parts that are alike. -/
theorem named_rel_get?
    (lawful : (named combining Fits).Lawful)
    {one other : Keyed Part}
    (tidy : (named combining Fits).Tidy one.entries)
    (reordered : Reordered (named combining Fits).Alike one.entries other.entries)
    (name : String) :
    Option.Rel combining.Alike (one.get? name) (other.get? name) := by
  rw [Keyed.get?_eq_find?, Keyed.get?_eq_find?]
  refine rel_map (lawful.rel_find? ?_ beq_of_beq_both tidy reordered) fun alike => alike.2.1
  intro first second alike
  rw [alike.1]

theorem named_exclusive_perm
    {one other : Keyed Part}
    (reordered : Reordered (named (.exclusive Part) Fits).Alike one.entries other.entries) :
    one.entries.Perm other.entries := by
  simpa using reordered.perm_map fun alike => Prod.ext alike.1 alike.2.1

end Joining

namespace Members

theorem sameOverloads_of_reordered
    {one other : Keyed (List Callable)}
    (tidy : groups.Tidy one.entries)
    (reordered : Reordered groups.Alike one.entries other.entries) :
    SameOverloads one other :=
  Joining.named_rel_get? lawful_groups tidy reordered

theorem samePropertyTypes_of_reordered
    {one other : Keyed Property}
    (tidy : properties.Tidy one.entries)
    (reordered : Reordered properties.Alike one.entries other.entries) :
    SamePropertyTypes one other := by
  intro name
  exact map_eq_of_rel (Joining.named_rel_get? lawful_properties tidy reordered name)
    fun alike => Prod.ext alike.1 alike.2

theorem perm_of_reordered_sources
    {one other : List CppType}
    (reordered : Reordered sources.Alike one other) :
    one.Perm other := by
  simpa using reordered.perm_map fun alike => alike.1

end Members

theorem Module.agrees_of_alike
    {one other : Module}
    (valid : joining.Valid one)
    (alike : joining.Alike one other) :
    one.Agrees other := by
  obtain ⟨sameName, ⟨sameDeclaration, sameFlag, classes, enums, functions, constants⟩, _⟩ :=
    alike
  obtain ⟨_, _, _, functionsTidy, _⟩ := valid_iff.mp valid
  simp only [Combining.declared, view, Equiv.coe_fn_mk, Prod.mk.injEq] at sameDeclaration
  obtain ⟨declaredAt, pythonName, doc, qualifiedName⟩ := sameDeclaration
  exact
    { cppName := sameName
      pythonName := pythonName
      doc := doc
      qualifiedName := qualifiedName
      declaredAt := declaredAt
      imported := sameFlag
      innerClasses := Joining.named_exclusive_perm classes
      innerEnums := Joining.named_exclusive_perm enums
      functions := Members.sameOverloads_of_reordered functionsTidy functions
      constants := Joining.named_exclusive_perm constants }

theorem Class.agrees_of_alike
    {one other : Class}
    (valid : joining.Valid one)
    (alike : joining.Alike one other) :
    one.Agrees other := by
  obtain ⟨sameKeys, ⟨sameDeclaration, sameFlag, classes, enums, constructors, methods,
    properties, constants, sources⟩, _⟩ := alike
  obtain ⟨_, _, _, methodsTidy, propertiesTidy, _⟩ := valid_iff.mp valid
  simp only [Combining.declared, view, Equiv.coe_fn_mk, Prod.mk.injEq] at sameDeclaration sameKeys
  obtain ⟨declaredAt, pythonName, doc, parentKey, qualifiedName⟩ := sameDeclaration
  exact
    { shadowKey := sameKeys.1
      cppType := sameKeys.2
      pythonName := pythonName
      doc := doc
      parentKey := parentKey
      qualifiedName := qualifiedName
      declaredAt := declaredAt
      imported := sameFlag
      innerClasses := Joining.named_exclusive_perm classes
      innerEnums := Joining.named_exclusive_perm enums
      constructors := constructors
      methods := Members.sameOverloads_of_reordered methodsTidy methods
      properties := Members.samePropertyTypes_of_reordered propertiesTidy properties
      constants := Joining.named_exclusive_perm constants
      implicitSources := Members.perm_of_reordered_sources sources }

theorem Enumeration.eq_of_alike
    {one other : Enumeration}
    (alike : joining.Alike one other) :
    one = other := by
  obtain ⟨sameName, ⟨sameDeclaration, sameFlag⟩, _⟩ := alike
  exact view.injective (Prod.ext sameName (Prod.ext sameDeclaration sameFlag))

/-- Reordered buckets hold the same rules up to parameter names. -/
theorem Members.perm_upToNames
    {one other : List (String × List TypeRule)}
    (tidy : buckets.Tidy one)
    (reordered : Reordered buckets.Alike one other) :
    ((one.flatMap Prod.snd).map TypeRule.upToNames).Perm
      ((other.flatMap Prod.snd).map TypeRule.upToNames) := by
  have inBuckets :
      ∀ {entries : List (String × List TypeRule)},
        buckets.Tidy entries →
        (entries.flatMap Prod.snd).map TypeRule.upToNames =
          entries.flatMap fun entry =>
            entry.2.map fun rule => (entry.1, rule.parameters.length, rule.canonicalForm) := by
    intro entries entriesTidy
    rw [List.map_flatMap]
    refine List.flatMap_congr fun entry member => ?_
    obtain ⟨_, _, belong⟩ := valid_bucket_iff.mp (entriesTidy.valid entry member)
    refine List.map_congr_left fun rule ruleMember => ?_
    rw [TypeRule.upToNames, belong rule ruleMember]
  rw [inBuckets tidy, inBuckets (lawful_buckets.tidy_of_reordered reordered tidy)]
  refine reordered.perm_flatMap fun {first second} alike => ?_
  obtain ⟨sameKey, rulesReordered, _⟩ := alike
  rw [sameKey]
  refine rulesReordered.perm_map fun {rule rule'} same => ?_
  have sameCount : rule.parameters.length = rule'.parameters.length :=
    congrArg Prod.fst same.1
  rw [sameCount, same.2]

namespace BindingModel

section Lookups

variable {whole : Contents}

theorem module?_ofContents
    (tidy : Module.joining.Tidy whole.1)
    (cppName : String) :
    (ofContents whole).module? cppName =
      whole.1.find? fun entity => entity.cppName == cppName := by
  rw [List.find?_eq_bind_findIdx?_getElem?,
    ← get?_positionsBy (distinct_moduleNames tidy) cppName]
  rfl

theorem class?_ofContents
    (tidy : Class.joining.Tidy whole.2.1)
    (shadowKey : String) :
    (ofContents whole).class? shadowKey =
      whole.2.1.find? fun entity => entity.shadowKey == shadowKey := by
  rw [List.find?_eq_bind_findIdx?_getElem?,
    ← get?_positionsBy (distinct_classKeys tidy).1 shadowKey]
  rfl

theorem classForType?_ofContents
    (tidy : Class.joining.Tidy whole.2.1)
    (cppType : CppType) :
    (ofContents whole).classForType? cppType =
      whole.2.1.find? fun entity => entity.cppType == cppType := by
  rw [List.find?_eq_bind_findIdx?_getElem?,
    ← lookup_positionsByType (distinct_classKeys tidy).2 cppType]
  rfl

theorem enum?_ofContents
    (tidy : Enumeration.joining.Tidy whole.2.2.1)
    (cppName : String) :
    (ofContents whole).enum? cppName =
      whole.2.2.1.find? fun entity => entity.cppName == cppName := by
  rw [List.find?_eq_bind_findIdx?_getElem?,
    ← get?_positionsBy (distinct_enumNames tidy) cppName]
  rfl

end Lookups

/-- A lookup among entities of which at most one is wanted finds agreeing entities. -/
theorem rel_find?_of_alike
    {Entity : Type}
    {joining : Joining Entity}
    {Agree : Entity → Entity → Prop}
    (lawful : joining.Lawful)
    {wanted : Entity → Bool}
    (respects : ∀ {one other}, joining.Alike one other → wanted one = wanted other)
    (unique :
      ∀ {one other},
        wanted one = true →
        wanted other = true →
        joining.meets one other = true)
    (agree : ∀ {one other}, joining.Valid one → joining.Alike one other → Agree one other)
    {entities entities' : List Entity}
    (tidy : joining.Tidy entities)
    (reordered : Reordered joining.Alike entities entities') :
    Option.Rel Agree (entities.find? wanted) (entities'.find? wanted) := by
  rw [← Option.bind_fun_some (entities.find? wanted),
    ← Option.bind_fun_some (entities'.find? wanted)]
  refine rel_bind (lawful.rel_find? respects unique tidy reordered) ?_
  intro one other found _ alike
  exact .some (agree (tidy.valid one (List.mem_of_find?_eq_some found)) alike)

/-- Contents that are alike make up models that agree. -/
theorem agrees_of_alike
    {one other : Contents}
    (valid : contents.Valid one)
    (alike : contents.Alike one other) :
    (ofContents one).Agrees (ofContents other) := by
  obtain ⟨modulesTidy, classesTidy, enumsTidy, bucketsTidy⟩ := valid_contents_iff.mp valid
  obtain ⟨modulesAlike, classesAlike, enumsAlike, bucketsAlike⟩ := alike
  have modulesTidy' := Module.lawful_joining.tidy_of_reordered modulesAlike modulesTidy
  have classesTidy' := Class.lawful_joining.tidy_of_reordered classesAlike classesTidy
  have enumsTidy' := Enumeration.lawful_joining.tidy_of_reordered enumsAlike enumsTidy
  refine
    { moduleKeys := modulesAlike.perm_map fun alike => alike.1
      modules := ?_
      classKeys := classesAlike.perm_map fun alike => alike.1
      classes := ?_
      classesByType := ?_
      enumKeys := enumsAlike.perm_map fun alike => alike.1
      enums := ?_
      rules := ?_ }
  · intro cppName
    rw [module?_ofContents modulesTidy, module?_ofContents modulesTidy']
    refine rel_find?_of_alike Module.lawful_joining ?_ beq_of_beq_both Module.agrees_of_alike
      modulesTidy modulesAlike
    intro first second alike
    exact congrArg (· == cppName) alike.1
  · intro shadowKey
    rw [class?_ofContents classesTidy, class?_ofContents classesTidy']
    refine rel_find?_of_alike Class.lawful_joining ?_ ?_ Class.agrees_of_alike classesTidy
      classesAlike
    · intro first second alike
      rw [show first.shadowKey = second.shadowKey from congrArg Prod.fst alike.1]
    · intro first second firstWanted secondWanted
      exact Bool.or_eq_true_iff.mpr (.inl (beq_of_beq_both firstWanted secondWanted))
  · intro cppType
    rw [classForType?_ofContents classesTidy, classForType?_ofContents classesTidy']
    refine rel_find?_of_alike Class.lawful_joining ?_ ?_ Class.agrees_of_alike classesTidy
      classesAlike
    · intro first second alike
      rw [show first.cppType = second.cppType from congrArg Prod.snd alike.1]
    · intro first second firstWanted secondWanted
      exact Bool.or_eq_true_iff.mpr (.inr (beq_of_beq_both firstWanted secondWanted))
  · intro cppName
    rw [enum?_ofContents enumsTidy, enum?_ofContents enumsTidy']
    have related :
        Option.Rel Eq (one.2.2.1.find? fun entity => entity.cppName == cppName)
          (other.2.2.1.find? fun entity => entity.cppName == cppName) := by
      refine rel_find?_of_alike Enumeration.lawful_joining ?_ beq_of_beq_both
        (fun _ alike => Enumeration.eq_of_alike alike) enumsTidy enumsAlike
      intro first second alike
      rw [Enumeration.eq_of_alike alike]
    simpa using map_eq_of_rel related (congrArg id ·)
  · exact Members.perm_upToNames bucketsTidy bucketsAlike

end BindingModel

end BindingStubs
