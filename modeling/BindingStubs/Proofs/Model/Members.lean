import BindingStubs.Proofs.Combining.Items
import BindingStubs.Proofs.Keyed
import BindingStubs.Proofs.Model.Change

namespace BindingStubs

/-!
# How members are combined

Each kind of member of an entity is kept in a list that takes in further members: placed
entities and constants are given once, overloads are appended to their group, the halves of
a property complete each other, and conversion sources and type rules may be repeated.
Adding a member to an entity is taking one item into such a list.
-/

namespace Joining

/-- Parts under names; parts under one name are combined. -/
def named
    {Part : Type}
    (combining : Combining Part)
    (Fits : String → Part → Prop) :
    Joining (String × Part) :=
  keyed (fun first second => first == second) combining Fits

/-- Parts under names are lawfully joined when the parts are lawfully combined. -/
theorem lawful_named
    {Part : Type}
    {combining : Combining Part}
    {Fits : String → Part → Prop}
    (lawful : combining.Lawful)
    (fits : ∀ name, combining.Keeps (Fits name)) :
    (named combining Fits).Lawful :=
  lawful_keyed lawful (fun _ _ => Bool.beq_comm) fits

/-- A part is taken into a keyed list by a lookup and an insertion. -/
theorem named_insert?
    {Part : Type}
    (combining : Combining Part)
    (Fits : String → Part → Prop)
    (keyedParts : Keyed Part)
    (name : String)
    (part : Part) :
    (named combining Fits).insert? (name, part) keyedParts.entries =
      match keyedParts.get? name with
      | none => some (keyedParts.insert name part).entries
      | some former =>
          (combining.combine? former part).map fun joined =>
            (keyedParts.insert name joined).entries := by
  obtain ⟨entries⟩ := keyedParts
  simp only [Keyed.insert]
  induction entries with
  | nil => rfl
  | cons entry rest inductionHypothesis =>
      rw [Keyed.get?_mk_cons]
      by_cases same : name = entry.1
      · have met : (named combining Fits).meets entry (name, part) = true := by
          simp [named, keyed, same]
        rw [insert?_cons_of_meets met, if_pos same]
        simp [named, keyed, same, Keyed.insertEntry, Function.comp_def]
      · have unmet : (named combining Fits).meets entry (name, part) = false := by
          simp [named, keyed, Ne.symm same]
        have passed :
            ∀ value : Part,
              Keyed.insertEntry name value (entry :: rest) =
                entry :: Keyed.insertEntry name value rest := by
          intro value
          rw [Keyed.insertEntry, if_neg (by simpa using same)]
        rw [insert?_cons_of_not_meets unmet, if_neg same, inductionHypothesis]
        cases (⟨rest⟩ : Keyed Part).get? name with
        | none => simp [passed]
        | some former => simp [passed, Function.comp_def]

/-- No two parts of a tidy list have the same name. -/
theorem Tidy.nodup_keys
    {Part : Type}
    {combining : Combining Part}
    {Fits : String → Part → Prop}
    {entries : List (String × Part)}
    (tidy : (named combining Fits).Tidy entries) :
    (⟨entries⟩ : Keyed Part).keys.Nodup := by
  refine List.pairwise_map.mpr (tidy.apart.imp ?_)
  intro first second apart
  exact beq_eq_false_iff_ne.mp apart

end Joining

namespace Property

/-- Two halves of a property complete each other; neither may be given twice. -/
def combining : Combining Property where
  combine? first second :=
    if first.getterType.isSome ∧ second.getterType.isSome then none
    else if first.setterType.isSome ∧ second.setterType.isSome then none
    else
      some
        { first with
          getterType := first.getterType <|> second.getterType
          setterType := first.setterType <|> second.setterType
          setterParameter :=
            if second.setterType.isSome then second.setterParameter
            else first.setterParameter
          doc := first.doc <|> second.doc }
  Valid _ :=
    True
  Alike first second :=
    first.getterType = second.getterType ∧
      first.setterType = second.setterType

/-- It does not matter which halves are put together first. -/
theorem combining_assoc
    (first second third : Property) :
    (combining.combine? first second).bind (combining.combine? · third) =
      (combining.combine? second third).bind (combining.combine? first) := by
  obtain ⟨_, firstDoc, firstGetter, firstSetter, _, _⟩ := first
  obtain ⟨_, secondDoc, secondGetter, secondSetter, _, _⟩ := second
  obtain ⟨_, thirdDoc, thirdGetter, thirdSetter, _, _⟩ := third
  cases firstGetter <;> cases secondGetter <;> cases thirdGetter <;>
    cases firstSetter <;> cases secondSetter <;> cases thirdSetter <;>
    simp [combining, Option.or_assoc]

theorem lawful_combining :
    combining.Lawful where
  closed _ _ _ := trivial
  assoc _ _ _ := combining_assoc _ _ _
  equivalence :=
    ⟨fun _ => ⟨rfl, rfl⟩, fun alike => ⟨alike.1.symm, alike.2.symm⟩,
      fun one other => ⟨one.1.trans other.1, one.2.trans other.2⟩⟩
  alike_valid _ _ := trivial
  comm := by
    rintro ⟨_, _, firstGetter, firstSetter, _, _⟩ ⟨_, _, secondGetter, secondSetter, _, _⟩ _ _
    cases firstGetter <;> cases secondGetter <;> cases firstSetter <;> cases secondSetter <;>
      simp [combining]
  congr := by
    rintro ⟨_, _, firstGetter, firstSetter, _, _⟩ ⟨_, _, _, _, _, _⟩
      ⟨_, _, secondGetter, secondSetter, _, _⟩ ⟨_, _, _, _, _, _⟩ _ _ ⟨rfl, rfl⟩ ⟨rfl, rfl⟩
    cases firstGetter <;> cases secondGetter <;> cases firstSetter <;> cases secondSetter <;>
      simp [combining]

theorem combining_keeps_name
    (name : String) :
    combining.Keeps (fun property => property.name = name) := by
  intro first second joined firstNamed _ combined
  simp only [combining] at combined
  split at combined
  · simp at combined
  · split at combined
    · simp at combined
    · cases combined
      exact firstNamed

theorem after?_absorb
    (owner : String)
    (property incoming : Property) :
    Change.after? (absorb owner incoming) property =
      combining.combine? property incoming := by
  obtain ⟨_, _, getter, setter, _, _⟩ := property
  obtain ⟨_, _, incomingGetter, incomingSetter, _, _⟩ := incoming
  cases getter <;> cases incomingGetter <;> cases setter <;> cases incomingSetter <;> rfl

end Property

namespace Members

/-- Classes and enums placed in a container; each is placed once. -/
def placements : Joining (String × Location) :=
  .named (.exclusive Location) fun _ _ => True

/-- Overload groups; an overload is appended to its group. -/
def groups : Joining (String × List Callable) :=
  .named (.appending Callable) fun _ _ => True

def constants : Joining (String × Constant) :=
  .named (.exclusive Constant) fun name constant => constant.name = name

def properties : Joining (String × Property) :=
  .named Property.combining fun name property => property.name = name

/-- Types from which a class may be converted; one may be given again. -/
def sources : Joining CppType :=
  .repeating id fun _ => ()

/-- Type rules; one may be given again under other parameter names. -/
def rules : Joining TypeRule :=
  .repeating (fun rule => (rule.parameters.length, rule.canonicalForm.pattern))
    TypeRule.canonicalForm

/-- The rules of one bucket: there are some, and all of them belong there. -/
def FillsBucket
    (key : String)
    (bucket : List TypeRule) :
    Prop :=
  bucket ≠ [] ∧ ∀ rule ∈ bucket, rule.bucketKey = key

/-- Type rules in their buckets. -/
def buckets : Joining (String × List TypeRule) :=
  .named rules.listing FillsBucket

@[simp] theorem valid_placement
    (entry : String × Location) :
    placements.Valid entry :=
  ⟨trivial, trivial⟩

@[simp] theorem valid_group
    (entry : String × List Callable) :
    groups.Valid entry :=
  ⟨trivial, trivial⟩

@[simp] theorem valid_constant_iff
    {entry : String × Constant} :
    constants.Valid entry ↔ entry.2.name = entry.1 :=
  Iff.of_eq (true_and _)

@[simp] theorem valid_property_iff
    {entry : String × Property} :
    properties.Valid entry ↔ entry.2.name = entry.1 :=
  Iff.of_eq (true_and _)

@[simp] theorem valid_source
    (source : CppType) :
    sources.Valid source :=
  trivial

@[simp] theorem valid_rule
    (rule : TypeRule) :
    rules.Valid rule :=
  trivial

@[simp] theorem valid_bucket_iff
    {entry : String × List TypeRule} :
    buckets.Valid entry ↔ rules.Tidy entry.2 ∧ FillsBucket entry.1 entry.2 :=
  Iff.rfl

theorem lawful_placements : placements.Lawful :=
  Joining.lawful_named Combining.lawful_exclusive fun _ _ _ _ _ _ _ => trivial

theorem lawful_groups : groups.Lawful :=
  Joining.lawful_named Combining.lawful_appending fun _ _ _ _ _ _ _ => trivial

theorem lawful_constants : constants.Lawful :=
  Joining.lawful_named Combining.lawful_exclusive
    fun _ _ _ _ _ _ combined => by simp [Combining.exclusive] at combined

theorem lawful_properties : properties.Lawful :=
  Joining.lawful_named Property.lawful_combining Property.combining_keeps_name

theorem lawful_sources : sources.Lawful :=
  Joining.lawful_repeating ..

theorem lawful_rules : rules.Lawful :=
  Joining.lawful_repeating ..

theorem lawful_buckets : buckets.Lawful := by
  refine Joining.lawful_named lawful_rules.listing ?_
  intro key first second joined firstFills secondFills combined
  have keeps : rules.Keeps fun rule => rule.bucketKey = key :=
    Joining.repeating_keeps _ _ _
  exact ⟨lawful_rules.insertAll?_ne_nil firstFills.1 combined,
    lawful_rules.forall_mem_insertAll? keeps firstFills.2 secondFills.2 combined⟩

/-- Adding members one by one is taking in the list of them. -/
theorem after?_forAll_insert
    {State Element Item : Type}
    (joining : Joining Item)
    (part : State → List Item)
    (update : State → List Item → State)
    (action : Element → Change State Unit)
    (item : Element → Item)
    (step :
      ∀ element state,
        Change.after? (action element) state =
          (joining.insert? (item element) (part state)).map (update state))
    (part_update : ∀ state items, part (update state items) = items)
    (update_update :
      ∀ state items items', update (update state items) items' = update state items')
    (update_part : ∀ state, update state (part state) = state)
    (elements : List Element)
    (state : State) :
    Change.after? (BindingModel.forAll action elements) state =
      (joining.insertAll? (part state) (elements.map item)).map (update state) := by
  induction elements generalizing state with
  | nil => exact congrArg some (update_part state).symm
  | cons element rest inductionHypothesis =>
      rw [Change.after?_forAll_cons, step, List.map_cons, Joining.insertAll?]
      cases joining.insert? (item element) (part state) with
      | none => rfl
      | some items =>
          rw [Option.map_some, Option.bind_some, Option.bind_some, inductionHypothesis,
            part_update]
          exact congrArg (Option.map · _) (funext (update_update state items))

/-- Members that stand under their own names are known from their values. -/
theorem map_values_of_named
    {Part : Type}
    {keyedParts : Keyed Part}
    {name : Part → String}
    (named : ∀ entry ∈ keyedParts.entries, name entry.2 = entry.1) :
    (keyedParts.values.map fun part => (name part, part)) = keyedParts.entries := by
  rw [Keyed.values, List.map_map]
  refine (List.map_congr_left ?_).trans (List.map_id _)
  intro entry member
  exact Prod.ext (named entry member) rfl

theorem after?_place
    (kind owner key : String)
    (location : Location)
    (placed : Placements) :
    Change.after? (place kind owner key location) placed =
      (placements.insert? (key, location) placed.entries).map Keyed.mk := by
  rw [placements, Joining.named_insert?, place, Change.after?_get_bind]
  cases placed.get? key <;> rfl

theorem after?_insertConstant
    (owner : String)
    (constant : Constant)
    (present : Keyed Constant) :
    Change.after? (insertConstant owner constant) present =
      (constants.insert? (constant.name, constant) present.entries).map Keyed.mk := by
  rw [constants, Joining.named_insert?, insertConstant, Change.after?_get_bind]
  cases present.get? constant.name <;> rfl

/-- Overloads are appended by taking in their group. -/
theorem groups_insert?
    (present : Keyed (List Callable))
    (name : String)
    (overloads : List Callable) :
    groups.insert? (name, overloads) present.entries =
      some (appendOverloads present name overloads).entries := by
  rw [groups, Joining.named_insert?, appendOverloads, Keyed.alter]
  cases present.get? name <;> rfl

theorem groups_insertAll?
    (present incoming : Keyed (List Callable)) :
    groups.insertAll? present.entries incoming.entries =
      some (BindingModel.appendGroups present incoming).entries := by
  obtain ⟨entries⟩ := incoming
  rw [BindingModel.appendGroups]
  induction entries generalizing present with
  | nil => rfl
  | cons entry rest inductionHypothesis =>
      rw [Joining.insertAll?, groups_insert?, Option.bind_some, inductionHypothesis,
        List.foldl_cons]

theorem appendGroups_nil
    (present : Keyed (List Callable)) :
    BindingModel.appendGroups present {} = present :=
  rfl

theorem appendGroups_singleton
    (present : Keyed (List Callable))
    (name : String)
    (overloads : List Callable) :
    BindingModel.appendGroups present ⟨[(name, overloads)]⟩ =
      appendOverloads present name overloads :=
  rfl

/-- A source is taken in unless it is there. -/
theorem sources_insert?
    (present : List CppType)
    (source : CppType) :
    sources.insert? source present = some (insertSource present source) := by
  rw [sources, Joining.repeating_insert?, insertSource]
  cases found : present.find? (fun former => decide (id former = id source)) with
  | none =>
      have absent : source ∉ present := by
        intro member
        simpa using List.find?_eq_none.mp found source member
      simp [absent]
  | some former =>
      have isSource : former = source := by
        simpa using List.find?_some found
      have present' : source ∈ present := isSource ▸ List.mem_of_find?_eq_some found
      simp [present']

/-- The first rule with the same pattern is the first rule that a rule meets. -/
theorem findSamePattern?_eq
    (rule : TypeRule)
    (bucket : List TypeRule) :
    BindingModel.findSamePattern? rule bucket =
      bucket.find? fun former =>
        decide ((former.parameters.length, former.canonicalForm.pattern) =
          (rule.parameters.length, rule.canonicalForm.pattern)) := by
  rw [BindingModel.findSamePattern?]
  congr
  funext former
  rw [Bool.eq_iff_iff]
  simp

theorem after?_addRule
    (rule : TypeRule)
    (model : BindingModel) :
    Change.after? (BindingModel.addRule rule) model =
      (buckets.insert? (rule.bucketKey, [rule]) model.rules.entries).map fun entries =>
        { model with rules := ⟨entries⟩ } := by
  rw [buckets, Joining.named_insert?, BindingModel.addRule, Change.after?_get_bind]
  cases found : model.rules.get? rule.bucketKey with
  | none => rfl
  | some bucket =>
      dsimp only
      rw [Option.getD_some, Joining.listing_combine?, Joining.insertAll?_singleton, rules,
        Joining.repeating_insert?, findSamePattern?_eq]
      cases bucket.find? fun former =>
          decide ((former.parameters.length, former.canonicalForm.pattern) =
            (rule.parameters.length, rule.canonicalForm.pattern)) with
      | none => rfl
      | some former =>
          by_cases same : former.canonicalForm = rule.canonicalForm
          · simp [same, Keyed.insert_of_get?_eq_some found, Change.after?_pure]
          · simp [same, Change.after?_throw]

end Members

end BindingStubs
