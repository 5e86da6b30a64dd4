import BindingStubs.Proofs.Model.Entries

namespace BindingStubs

/-!
# Registering and merging are combining

Every registration adds fixed contents to a model, whatever the model contains, or is
refused.  Merging adds the contents of a whole model.  Both are combining of contents, so
both inherit that combining is associative, and commutative up to order.
-/

namespace Members

/-- The rules of a bucket, each in a bucket of its own. -/
def singles
    (entry : String × List TypeRule) :
    List (String × List TypeRule) :=
  entry.2.map fun rule => (entry.1, [rule])

/-- A rule that is new to its bucket is appended to it. -/
theorem buckets_insert?_new
    {key : String}
    {bucket : List TypeRule}
    {rule : TypeRule}
    (isNew : ∀ former ∈ bucket, rules.meets former rule = false) :
    buckets.insert? (key, [rule]) [(key, bucket)] = some [(key, bucket ++ [rule])] := by
  rw [Joining.insert?_cons_of_meets (beq_self_eq_true key), buckets, Joining.named,
    Joining.keyed_combine?_same, Joining.listing_combine?, Joining.insertAll?_singleton,
    Joining.insert?_eq_append isNew]
  rfl

/-- The rules of a tidy list may be put into their bucket one by one. -/
theorem buckets_insertAll?_rest
    (key : String)
    (bucket rest : List TypeRule)
    (tidy : rules.Tidy (bucket ++ rest)) :
    buckets.insertAll? [(key, bucket)] (singles (key, rest)) =
      some [(key, bucket ++ rest)] := by
  induction rest generalizing bucket with
  | nil => simp [singles]
  | cons rule rest inductionHypothesis =>
      have isNew : ∀ former ∈ bucket, rules.meets former rule = false :=
        fun former member =>
          (List.pairwise_append.mp tidy.apart).2.2 former member rule (List.mem_cons_self ..)
      have restTidy : rules.Tidy ((bucket ++ [rule]) ++ rest) := by
        simpa using tidy
      rw [singles, List.map_cons, Joining.insertAll?, buckets_insert?_new isNew,
        Option.bind_some]
      simpa [singles] using inductionHypothesis (bucket ++ [rule]) restTidy

/-- A valid bucket is filled by putting its rules in one by one. -/
theorem buckets_insertAll?_singles
    {entry : String × List TypeRule}
    (valid : buckets.Valid entry) :
    buckets.insertAll? [] (singles entry) = some [entry] := by
  obtain ⟨key, bucket⟩ := entry
  obtain ⟨tidy, occupied, _⟩ := valid_bucket_iff.mp valid
  cases bucket with
  | nil => exact absurd rfl occupied
  | cons rule rest => exact buckets_insertAll?_rest key [rule] rest tidy

/-- Rules may be put into their buckets one by one. -/
theorem buckets_insertAll?_flatMap_singles
    {entries : List (String × List TypeRule)}
    (tidy : buckets.Tidy entries) :
    buckets.insertAll? [] (entries.flatMap singles) = some entries := by
  induction entries with
  | nil => rfl
  | cons entry rest inductionHypothesis =>
      obtain ⟨entryValid, entryApart, restTidy⟩ := Joining.tidy_cons.mp tidy
      have singlesValid : ∀ single ∈ rest.flatMap singles, buckets.Valid single := by
        intro single member
        obtain ⟨former, formerMember, inFormer⟩ := List.mem_flatMap.mp member
        obtain ⟨rule, ruleMember, rfl⟩ := List.mem_map.mp inFormer
        obtain ⟨_, _, belong⟩ := valid_bucket_iff.mp (restTidy.valid former formerMember)
        refine valid_bucket_iff.mpr ⟨by simp, by simp, ?_⟩
        simpa using belong rule ruleMember
      rw [List.flatMap_cons, Joining.insertAll?_append, buckets_insertAll?_singles entryValid,
        Option.bind_some,
        lawful_buckets.insertAll?_collected (Joining.tidy_singleton.mpr entryValid)
          singlesValid (inductionHypothesis restTidy)]
      exact Joining.insertAll?_eq_append tidy.apart

end Members

namespace BindingModel

/-- Entering entities one by one is taking in the list of them. -/
theorem after?_forAll_enter
    {Element Entity : Type}
    {joining : Joining Entity}
    (lawful : joining.Lawful)
    (rebuild : List Entity → BindingModel)
    (action : Element → Registering Unit)
    (item : Element → Entity)
    (step :
      ∀ {entities element},
        joining.Tidy entities →
        joining.Valid (item element) →
        Change.after? (action element) (rebuild entities) =
          (joining.insert? (item element) entities).map rebuild)
    {entities : List Entity}
    {elements : List Element}
    (tidy : joining.Tidy entities)
    (valid : ∀ element ∈ elements, joining.Valid (item element)) :
    Change.after? (forAll action elements) (rebuild entities) =
      (joining.insertAll? entities (elements.map item)).map rebuild := by
  induction elements generalizing entities with
  | nil => rfl
  | cons element rest inductionHypothesis =>
      have elementValid := valid element (List.mem_cons_self ..)
      have restValid : ∀ other ∈ rest, joining.Valid (item other) :=
        fun other member => valid other (List.mem_cons_of_mem _ member)
      rw [Change.after?_forAll_cons, step tidy elementValid, List.map_cons,
        Joining.insertAll?, Option.bind_map, Option.map_bind]
      refine Option.bind_congr fun extended inserted => ?_
      exact inductionHypothesis (lawful.insert?_tidy tidy elementValid inserted) restValid

theorem allRules_singles
    {whole : Contents}
    (tidy : Members.buckets.Tidy whole.2.2.2) :
    ((ofContents whole).allRules.map fun rule => (rule.bucketKey, [rule])) =
      whole.2.2.2.flatMap Members.singles := by
  change ((whole.2.2.2.map Prod.snd).flatten.map fun rule => (rule.bucketKey, [rule])) = _
  rw [List.map_flatten, List.map_map, ← List.flatMap_def]
  refine List.flatMap_congr fun entry member => ?_
  obtain ⟨_, _, belong⟩ := Members.valid_bucket_iff.mp (tidy.valid entry member)
  refine List.map_congr_left fun rule ruleMember => ?_
  rw [belong rule ruleMember]

/-- Adding all rules of a model is taking in its buckets. -/
theorem after?_forAll_addRule
    {whole other : Contents}
    (tidy : Members.buckets.Tidy whole.2.2.2)
    (otherTidy : Members.buckets.Tidy other.2.2.2) :
    Change.after? (forAll addRule (ofContents other).allRules) (ofContents whole) =
      (Members.buckets.insertAll? whole.2.2.2 other.2.2.2).map fun entries =>
        ofContents (whole.1, whole.2.1, whole.2.2.1, entries) := by
  have singleValid :
      ∀ rule : TypeRule, Members.buckets.Valid (rule.bucketKey, [rule]) :=
    fun rule => Members.valid_bucket_iff.mpr ⟨by simp, by simp, by simp⟩
  have singlesValid :
      ∀ single ∈ (ofContents other).allRules.map fun rule => (rule.bucketKey, [rule]),
        Members.buckets.Valid single := by
    intro single member
    obtain ⟨rule, _, rfl⟩ := List.mem_map.mp member
    exact singleValid rule
  have collected := Members.buckets_insertAll?_flatMap_singles otherTidy
  rw [← allRules_singles otherTidy] at collected
  rw [← Members.lawful_buckets.insertAll?_collected tidy singlesValid collected]
  exact after?_forAll_enter Members.lawful_buckets
    (fun entries => ofContents (whole.1, whole.2.1, whole.2.2.1, entries)) addRule
    (fun rule => (rule.bucketKey, [rule])) (fun _ _ => Members.after?_addRule ..) tidy
    (fun rule _ => singleValid rule)

theorem after?_forAll_mergeModule
    {whole : Contents}
    {modules : List Module}
    (tidy : Module.joining.Tidy whole.1)
    (valid : ∀ entity ∈ modules, Module.joining.Valid entity) :
    Change.after? (forAll mergeModule modules) (ofContents whole) =
      (Module.joining.insertAll? whole.1 modules).map fun modules =>
        ofContents (modules, whole.2) := by
  simpa using after?_forAll_enter Module.lawful_joining
    (fun modules => ofContents (modules, whole.2)) mergeModule id
    (fun tidy valid => after?_inModule (Module.adds_absorb valid) tidy) tidy valid

theorem after?_forAll_mergeClass
    {whole : Contents}
    {classes : List Class}
    (tidy : Class.joining.Tidy whole.2.1)
    (valid : ∀ entity ∈ classes, Class.joining.Valid entity) :
    Change.after? (forAll mergeClass classes) (ofContents whole) =
      (Class.joining.insertAll? whole.2.1 classes).map fun classes =>
        ofContents (whole.1, classes, whole.2.2) := by
  simpa using after?_forAll_enter Class.lawful_joining
    (fun classes => ofContents (whole.1, classes, whole.2.2)) mergeClass id
    (fun tidy valid => after?_inClass (Class.adds_absorb valid) _ tidy) tidy valid

theorem after?_forAll_mergeEnum
    {whole : Contents}
    {enums : List Enumeration}
    (tidy : Enumeration.joining.Tidy whole.2.2.1)
    (valid : ∀ entity ∈ enums, Enumeration.joining.Valid entity) :
    Change.after? (forAll mergeEnum enums) (ofContents whole) =
      (Enumeration.joining.insertAll? whole.2.2.1 enums).map fun enums =>
        ofContents (whole.1, whole.2.1, enums, whole.2.2.2) := by
  simpa using after?_forAll_enter Enumeration.lawful_joining
    (fun enums => ofContents (whole.1, whole.2.1, enums, whole.2.2.2)) mergeEnum id
    (fun tidy valid => after?_inEnum (Enumeration.adds_absorb valid) tidy) tidy valid

/-- Merging a model is combining with its contents. -/
theorem after?_merge
    {whole other : Contents}
    (wholeValid : contents.Valid whole)
    (otherValid : contents.Valid other) :
    Change.after? (merge (ofContents other)) (ofContents whole) =
      (contents.combine? whole other).map ofContents := by
  obtain ⟨modulesTidy, classesTidy, enumsTidy, bucketsTidy⟩ := valid_contents_iff.mp wholeValid
  obtain ⟨otherModules, otherClasses, otherEnums, otherBuckets⟩ :=
    valid_contents_iff.mp otherValid
  have modulesMerged := after?_forAll_mergeModule modulesTidy otherModules.valid
  have classesMerged :=
    fun modules => @after?_forAll_mergeClass (modules, whole.2) _ classesTidy otherClasses.valid
  have enumsMerged :=
    fun modules classes =>
      @after?_forAll_mergeEnum (modules, classes, whole.2.2) _ enumsTidy otherEnums.valid
  have rulesMerged :=
    fun modules classes enums =>
      @after?_forAll_addRule (modules, classes, enums, whole.2.2.2) other bucketsTidy
        otherBuckets
  simp only [merge, Change.after?_bind, ofContents_modules, ofContents_classes,
    ofContents_enums, modulesMerged, Option.bind_map, Function.comp_def, classesMerged,
    enumsMerged, rulesMerged]
  simp [contents, Combining.prod, Combining.both, Option.map_bind, Function.comp_def]

section OneItem

variable (whole : Contents)

theorem contents_combine?_module
    (entity : Module) :
    contents.combine? whole ([entity], [], [], []) =
      (Module.joining.insert? entity whole.1).map fun modules => (modules, whole.2) := by
  simp [contents, Combining.prod, Combining.both, Option.map_eq_bind]

theorem contents_combine?_class
    (entity : Class) :
    contents.combine? whole ([], [entity], [], []) =
      (Class.joining.insert? entity whole.2.1).map fun classes =>
        (whole.1, classes, whole.2.2) := by
  simp [contents, Combining.prod, Combining.both, Option.map_eq_bind, Option.bind_assoc]

theorem contents_combine?_enum
    (entity : Enumeration) :
    contents.combine? whole ([], [], [entity], []) =
      (Enumeration.joining.insert? entity whole.2.2.1).map fun enums =>
        (whole.1, whole.2.1, enums, whole.2.2.2) := by
  simp [contents, Combining.prod, Combining.both, Option.map_eq_bind, Option.bind_assoc]

theorem contents_combine?_bucket
    (entry : String × List TypeRule) :
    contents.combine? whole ([], [], [], [entry]) =
      (Members.buckets.insert? entry whole.2.2.2).map fun entries =>
        (whole.1, whole.2.1, whole.2.2.1, entries) := by
  simp [contents, Combining.prod, Combining.both, Option.map_eq_bind, Option.bind_assoc]

end OneItem

/-- Contents no part of which is flagged as imported. -/
structure IsLocal
    (whole : Contents) : Prop where
  modules : ∀ entity ∈ whole.1, entity.imported = false
  classes : ∀ entity ∈ whole.2.1, entity.imported = false
  enums : ∀ entity ∈ whole.2.2.1, entity.imported = false

theorem isLocal_module
    {entity : Module}
    (notImported : entity.imported = false) :
    IsLocal ([entity], [], [], []) :=
  ⟨by simpa using notImported, by simp, by simp⟩

theorem isLocal_class
    {entity : Class}
    (notImported : entity.imported = false) :
    IsLocal ([], [entity], [], []) :=
  ⟨by simp, by simpa using notImported, by simp⟩

theorem isLocal_enum
    {entity : Enumeration}
    (notImported : entity.imported = false) :
    IsLocal ([], [], [entity], []) :=
  ⟨by simp, by simp, by simpa using notImported⟩

theorem isLocal_bucket
    (entry : String × List TypeRule) :
    IsLocal ([], [], [], [entry]) :=
  ⟨by simp, by simp, by simp⟩

/-- Contents that a change of a model adds, whatever the model contains. -/
structure Contributes
    (change : Registering Unit)
    (part : Contents) : Prop where
  valid :
    contents.Valid part
  after? :
    ∀ {whole},
      contents.Valid whole →
      Change.after? change (ofContents whole) = (contents.combine? whole part).map ofContents

theorem contributes_inModule
    {change : Change Module Unit}
    {addition : Module}
    (adds : Adds Module.joining Module.cppName change addition) :
    Contributes (inModule addition.cppName change) ([addition], [], [], []) where
  valid := by
    simpa [valid_contents_iff] using adds.valid
  after? {whole} wholeValid := by
    rw [contents_combine?_module, Option.map_map]
    exact after?_inModule adds wholeValid.1

theorem contributes_inClass
    {change : Change Class Unit}
    {addition : Class}
    (adds : Adds Class.joining Class.keys change addition)
    (location : Location) :
    Contributes (inClass addition.shadowKey addition.cppType location change)
      ([], [addition], [], []) where
  valid := by
    simpa [valid_contents_iff] using adds.valid
  after? {whole} wholeValid := by
    rw [contents_combine?_class, Option.map_map]
    exact after?_inClass adds location wholeValid.2.1

theorem contributes_inEnum
    {change : Change Enumeration Unit}
    {addition : Enumeration}
    (adds : Adds Enumeration.joining Enumeration.cppName change addition) :
    Contributes (inEnum addition.cppName change) ([], [], [addition], []) where
  valid := by
    simpa [valid_contents_iff] using adds.valid
  after? {whole} wholeValid := by
    rw [contents_combine?_enum, Option.map_map]
    exact after?_inEnum adds wholeValid.2.2.1

theorem contributes_moduleEntry
    (cppName : String) :
    Contributes (discard (moduleEntry cppName)) ([Module.placeholder cppName], [], [], []) where
  valid := by
    simpa [valid_contents_iff] using Module.identified.valid_blank cppName
  after? {whole} wholeValid := by
    rw [contents_combine?_module, Option.map_map, Change.after?_discard]
    exact after?_enter Module.identified (enters_module cppName wholeValid.1)

theorem contributes_classEntry
    (shadowKey : String)
    (cppType : CppType)
    (location : Location) :
    Contributes (discard (classEntry shadowKey cppType location))
      ([], [Class.placeholder shadowKey cppType], [], []) where
  valid := by
    simpa [valid_contents_iff] using Class.identified.valid_blank (shadowKey, cppType)
  after? {whole} wholeValid := by
    rw [contents_combine?_class, Option.map_map, Change.after?_discard]
    exact after?_enter Class.identified
      (enters_class shadowKey cppType location wholeValid.2.1)

theorem contributes_enumEntry
    (cppName : String) :
    Contributes (discard (enumEntry cppName))
      ([], [], [Enumeration.placeholder cppName], []) where
  valid := by
    simpa [valid_contents_iff] using Enumeration.identified.valid_blank cppName
  after? {whole} wholeValid := by
    rw [contents_combine?_enum, Option.map_map, Change.after?_discard]
    exact after?_enter Enumeration.identified (enters_enum cppName wholeValid.2.2.1)

theorem contributes_addRule
    (rule : TypeRule) :
    Contributes (addRule rule) ([], [], [], [(rule.bucketKey, [rule])]) where
  valid := by
    simp [valid_contents_iff, Members.FillsBucket]
  after? {whole} _ := by
    rw [contents_combine?_bucket, Option.map_map]
    exact Members.after?_addRule rule (ofContents whole)

theorem exists_contribution_inModule
    {change : Change Module Unit}
    {addition : Module}
    (adds : Adds Module.joining Module.cppName change addition)
    (notImported : addition.imported = false) :
    ∃ part, Contributes (inModule addition.cppName change) part ∧ IsLocal part :=
  ⟨_, contributes_inModule adds, isLocal_module notImported⟩

theorem exists_contribution_inClass
    {change : Change Class Unit}
    {addition : Class}
    (adds : Adds Class.joining Class.keys change addition)
    (notImported : addition.imported = false)
    (location : Location) :
    ∃ part,
      Contributes (inClass addition.shadowKey addition.cppType location change) part ∧
        IsLocal part :=
  ⟨_, contributes_inClass adds location, isLocal_class notImported⟩

theorem exists_contribution_inEnum
    {change : Change Enumeration Unit}
    {addition : Enumeration}
    (adds : Adds Enumeration.joining Enumeration.cppName change addition)
    (notImported : addition.imported = false) :
    ∃ part, Contributes (inEnum addition.cppName change) part ∧ IsLocal part :=
  ⟨_, contributes_inEnum adds, isLocal_enum notImported⟩

end BindingModel

namespace Registration

open BindingModel

/-- Every registration adds fixed contents, and flags nothing as imported. -/
theorem exists_contribution
    (registration : Registration) :
    ∃ part, Contributes registration.perform part ∧ IsLocal part := by
  cases registration with
  | referToModule cppName => exact ⟨_, contributes_moduleEntry cppName, isLocal_module rfl⟩
  | referToClass shadowKey cppType location =>
      exact ⟨_, contributes_classEntry shadowKey cppType location, isLocal_class rfl⟩
  | referToEnum cppName => exact ⟨_, contributes_enumEntry cppName, isLocal_enum rfl⟩
  | declareModule cppName pythonName doc location =>
      exact exists_contribution_inModule
        (Module.adds_declaration cppName pythonName doc location) rfl
  | declareClass shadowKey cppType pythonName doc parentKey location =>
      exact exists_contribution_inClass
        (Class.adds_declaration shadowKey cppType pythonName doc parentKey location) rfl location
  | declareEnum cppName pythonName doc values location =>
      exact exists_contribution_inEnum
        (Enumeration.adds_declaration cppName pythonName doc values location) rfl
  | addFunction cppName name function =>
      exact exists_contribution_inModule (Module.adds_function cppName name function) rfl
  | addMethod shadowKey cppType location name method =>
      exact exists_contribution_inClass (Class.adds_method shadowKey cppType name method) rfl
        location
  | addConstructor shadowKey cppType location constructor =>
      exact exists_contribution_inClass (Class.adds_constructor shadowKey cppType constructor) rfl
        location
  | addProperty shadowKey cppType location property =>
      exact exists_contribution_inClass (Class.adds_property shadowKey cppType property) rfl
        location
  | addConstant owner constant =>
      cases owner with
      | module cppName =>
          exact exists_contribution_inModule (Module.adds_constant cppName constant) rfl
      | «class» shadowKey cppType location =>
          exact exists_contribution_inClass (Class.adds_constant shadowKey cppType constant) rfl
            location
  | placeClass owner key placedAt =>
      cases owner with
      | module cppName =>
          exact exists_contribution_inModule (Module.adds_class cppName key placedAt) rfl
      | «class» shadowKey cppType location =>
          exact exists_contribution_inClass (Class.adds_class shadowKey cppType key placedAt) rfl
            location
  | placeEnum owner key placedAt =>
      cases owner with
      | module cppName =>
          exact exists_contribution_inModule (Module.adds_enum cppName key placedAt) rfl
      | «class» shadowKey cppType location =>
          exact exists_contribution_inClass (Class.adds_enum shadowKey cppType key placedAt) rfl
            location
  | addImplicitSource shadowKey cppType location source =>
      exact exists_contribution_inClass (Class.adds_source shadowKey cppType source) rfl location
  | addRule rule => exact ⟨_, contributes_addRule rule, isLocal_bucket _⟩

end Registration

end BindingStubs
