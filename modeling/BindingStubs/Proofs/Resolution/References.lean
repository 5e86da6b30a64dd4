import BindingStubs.Proofs.Model.Reachable
import BindingStubs.Proofs.Naming.QualifiedNames
import BindingStubs.Proofs.Resolution.Preludes
import BindingStubs.Proofs.Text.Trimming
import BindingStubs.Resolution.Resolver

namespace BindingStubs.Resolution

/-!
# References to classes and enums

A class or enum has a full name, which begins with the name of the module that holds it.  In
the stub of that module the rest of the name is enough; in any other stub the full name is given
and the module is imported.  Which module holds a name is told from the names of the modules
alone, where one may go on from another.  A name that goes on from the name of the current module
is shortened even when another module, with a longer name, holds it.
-/

open BindingModel

/-! ## Where entities are placed -/

/-- A class or an enum. -/
inductive NamedEntity where
  | class (entity : Class)
  | enum (entity : Enumeration)
  deriving Repr, DecidableEq

/-- The full name of a class or an enum. -/
def NamedEntity.qualifiedName : NamedEntity → Option String
  | .class entity => entity.qualifiedName
  | .enum entity => entity.qualifiedName

/-- An entity that is placed in a container, directly or through classes, with the names on the
way to it. -/
inductive Placed
    (model : BindingModel) :
    (classes enums : Placements) → (path : List String) → NamedEntity → Prop where
  | class
      {classes enums : Placements}
      {key : String}
      {entity : Class} :
      key ∈ classes.keys →
      model.class? key = some entity →
      Placed model classes enums [entity.pythonName] (.class entity)
  | enum
      {classes enums : Placements}
      {key : String}
      {entity : Enumeration} :
      key ∈ enums.keys →
      model.enum? key = some entity →
      Placed model classes enums [entity.pythonName] (.enum entity)
  | inside
      {classes enums : Placements}
      {key : String}
      {outer : Class}
      {path : List String}
      {entity : NamedEntity} :
      key ∈ classes.keys →
      model.class? key = some outer →
      Placed model outer.innerClasses outer.innerEnums path entity →
      Placed model classes enums (outer.pythonName :: path) entity

/-- The name of an entity within the container that it is placed in. -/
def localName
    (path : List String) :
    String :=
  String.intercalate "." path

theorem qualify_assoc
    (first second third : String) :
    qualify (qualify first second) third = qualify first (qualify second third) := by
  simp only [qualify, String.append_assoc]

theorem localName_cons_cons
    (first second : String)
    (path : List String) :
    localName (first :: second :: path) = qualify first (localName (second :: path)) := by
  rw [localName, localName, qualify, ← String.toList_inj]
  simp only [String.toList_append, String.toList_intercalate, List.map_cons,
    List.intercalate_cons_cons, List.append_assoc]

theorem Placed.path_ne_nil
    {model : BindingModel}
    {classes enums : Placements}
    {path : List String}
    {entity : NamedEntity}
    (placed : Placed model classes enums path entity) :
    path ≠ [] := by
  cases placed <;> exact List.cons_ne_nil _ _

/-- Below a named scope everything bears the name of the scope, followed by its own. -/
theorem Placed.qualifiedName_eq
    {model : BindingModel}
    {classes enums : Placements}
    {path : List String}
    {entity : NamedEntity}
    (placed : Placed model classes enums path entity)
    {levels : Nat}
    {scope : String}
    (below : NamedBelow model levels { scope, classes := classes.keys, enums := enums.keys }) :
    entity.qualifiedName = some (qualify scope (localName path)) := by
  induction placed generalizing levels scope with
  | @«class» classes enums key entity isThere found =>
      cases levels with
      | zero => exact below.elim
      | succ levels =>
          obtain ⟨entity', computed, found', bears, _⟩ := below.2 key isThere
          rw [found] at found'
          cases found'
          exact bears.named.trans (congrArg some bears.computed_eq)
  | @enum classes enums key entity isThere found =>
      cases levels with
      | zero => exact below.elim
      | succ levels =>
          obtain ⟨entity', computed, found', bears⟩ := below.1 key isThere
          rw [found] at found'
          cases found'
          exact bears.named.trans (congrArg some bears.computed_eq)
  | @inside classes enums key outer path entity isThere found inner inductionHypothesis =>
      cases levels with
      | zero => exact below.elim
      | succ levels =>
          obtain ⟨outer', computed, found', bears, belowOuter⟩ := below.2 key isThere
          rw [found] at found'
          cases found'
          obtain ⟨first, rest, rfl⟩ := List.exists_cons_of_ne_nil inner.path_ne_nil
          rw [inductionHypothesis belowOuter, bears.computed_eq, qualify_assoc,
            localName_cons_cons]
          rfl

/-! ## Names relative to a module -/

theorem belowScope?_eq_some_iff
    {scope name rest : String} :
    belowScope? scope name = some rest ↔ name = qualify scope rest := by
  simp only [belowScope?, Option.map_eq_some_iff, List.isPrefixOf?_eq_some_iff_append_eq]
  constructor
  · rintro ⟨characters, whole, rfl⟩
    rw [← String.toList_inj, ← whole]
    simp [qualify]
  · rintro rfl
    exact ⟨rest.toList, by simp [qualify], String.ofList_toList⟩

/-- A name that goes on, after a dot, from another. -/
def LiesBelow
    (scope name : String) :
    Prop :=
  ∃ rest, name = qualify scope rest

theorem isSome_belowScope?_iff
    {scope name : String} :
    (belowScope? scope name).isSome ↔ LiesBelow scope name := by
  simp only [Option.isSome_iff_exists, belowScope?_eq_some_iff, LiesBelow]

instance
    (scope name : String) :
    Decidable (LiesBelow scope name) :=
  decidable_of_iff _ isSome_belowScope?_iff

/-- Of the names that a name goes on from, no two have the same length. -/
theorem LiesBelow.eq_of_length_eq
    {scope other name : String}
    (below : LiesBelow scope name)
    (belowOther : LiesBelow other name)
    (sameLength : scope.length = other.length) :
    scope = other := by
  obtain ⟨rest, rfl⟩ := below
  obtain ⟨otherRest, same⟩ := belowOther
  have sameText := String.toList_inj.mpr same
  simp only [qualify, String.toList_append, List.append_assoc] at sameText
  rw [← String.length_toList, ← String.length_toList] at sameLength
  exact String.toList_inj.mp (List.append_inj_left sameText sameLength)

/-- The closer of two candidates for the owner of a name; of two that are as long, the later. -/
def closer
    (name : String)
    (best : Option String)
    (candidate : String) :
    Option String :=
  if (belowScope? candidate name).isSome then
    match best with
    | some other => if candidate.length < other.length then best else some candidate
    | none => some candidate
  else best

section Closer

variable {owner name candidate : String} {best : Option String}

theorem length_closer_le
    (bestFits : ∀ other ∈ best, other.length ≤ owner.length)
    (candidateFits : LiesBelow candidate name → candidate.length ≤ owner.length) :
    ∀ other ∈ closer name best candidate, other.length ≤ owner.length := by
  unfold closer
  split
  · rename_i below
    have fits := candidateFits (isSome_belowScope?_iff.mp below)
    split
    · split
      · exact bestFits
      · simpa using fits
    · simpa using fits
  · exact bestFits

/-- An owner that is as long as the best so far is closer. -/
theorem closer_owner
    (isOwner : LiesBelow owner name)
    (bestFits : ∀ other ∈ best, other.length ≤ owner.length) :
    closer name best owner = some owner := by
  unfold closer
  rw [if_pos (isSome_belowScope?_iff.mpr isOwner)]
  cases best with
  | none => rfl
  | some other => exact if_neg (Nat.not_lt_of_le (bestFits other rfl))

/-- A candidate that is not longer than the owner does not replace it. -/
theorem closer_some_owner
    (isOwner : LiesBelow owner name)
    (candidateFits : LiesBelow candidate name → candidate.length ≤ owner.length) :
    closer name (some owner) candidate = some owner := by
  by_cases below : LiesBelow candidate name
  · rw [closer, if_pos (isSome_belowScope?_iff.mpr below)]
    by_cases shorter : candidate.length < owner.length
    · exact if_pos shorter
    · have sameLength := Nat.le_antisymm (candidateFits below) (Nat.le_of_not_lt shorter)
      rw [below.eq_of_length_eq isOwner sameLength]
      exact if_neg (Nat.lt_irrefl _)
  · rw [closer, if_neg (mt isSome_belowScope?_iff.mp below)]

/-- The best in the end is the owner, if it is the best so far or still to come. -/
theorem foldl_closer
    {names : List String}
    (isOwner : LiesBelow owner name)
    (isLongest : ∀ other ∈ names, LiesBelow other name → other.length ≤ owner.length)
    (bestFits : ∀ other ∈ best, other.length ≤ owner.length)
    (isThere : best = some owner ∨ owner ∈ names) :
    names.foldl (closer name) best = some owner := by
  induction names generalizing best with
  | nil => exact isThere.resolve_right List.not_mem_nil
  | cons candidate names inductionHypothesis =>
      obtain ⟨candidateFits, restFits⟩ := List.forall_mem_cons.mp isLongest
      refine inductionHypothesis restFits (length_closer_le bestFits candidateFits) ?_
      rcases isThere with rfl | isListed
      · exact .inl (closer_some_owner isOwner candidateFits)
      · rcases List.mem_cons.mp isListed with rfl | inRest
        · exact .inl (closer_owner isOwner bestFits)
        · exact .inr inRest

end Closer

/-- The longest module name that a name goes on from is that of the owner. -/
theorem owningModule?_eq_some
    {model : BindingModel}
    {owner name : String}
    (isOwner : LiesBelow owner name)
    (isThere : ∃ entity ∈ model.modules, entity.qualifiedName = some owner)
    (isLongest :
      ∀ entity ∈ model.modules,
        ∀ other,
          entity.qualifiedName = some other → LiesBelow other name →
          other.length ≤ owner.length) :
    owningModule? model name = some owner := by
  have noneIsLonger :
      ∀ other ∈ model.modules.filterMap Module.qualifiedName,
        LiesBelow other name → other.length ≤ owner.length := by
    intro other member
    obtain ⟨entity, inModel, isNamed⟩ := List.mem_filterMap.mp member
    exact isLongest entity inModel other isNamed
  exact foldl_closer isOwner noneIsLonger nofun (.inr (List.mem_filterMap.mpr isThere))

/-- The line that imports a module loses nothing when white space around it is dropped. -/
theorem trim_import
    {owner : String}
    {last : Char}
    (isLast : owner.toList.getLast? = some last)
    (notWhite : Text.isWhite last = false) :
    Text.trim ("import " ++ owner).toList = ("import " ++ owner).toList := by
  obtain ⟨before, isWhole⟩ := List.getLast?_eq_some_iff.mp isLast
  have startsPlain : Text.isWhite 'i' = false := by decide
  rw [String.toList_append, isWhole, ← List.append_assoc]
  rw [Text.trim, show "import ".toList = 'i' :: "mport ".toList from rfl, List.cons_append,
    List.cons_append, Text.trimStart_cons_of_not_white startsPlain, ← List.cons_append,
    Text.trimEnd_concat_of_not_white _ notWhite]

section Relative

variable {model : BindingModel} {scope name : String} (prelude : List String)

/-- A name that goes on from the current module is shortened. -/
theorem relative_of_eq_qualify
    {rest : String}
    (isBelow : name = qualify scope rest) :
    relative { model, scope := some scope } name prelude = .ok rest prelude := by
  simp only [relative, Option.bind_some, belowScope?_eq_some_iff.mpr isBelow]
  rfl

/-- Any other name is given in full, and its owner is imported. -/
theorem exists_import_of_relative
    {owner : String}
    (isElsewhere : ¬ LiesBelow scope name)
    (isOwner : owningModule? model name = some owner)
    {last : Char}
    (isLast : owner.toList.getLast? = some last)
    (notWhite : Text.isWhite last = false) :
    ∃ after,
      relative { model, scope := some scope } name prelude = .ok name after ∧
        "import " ++ owner ∈ after := by
  have notBelow : belowScope? scope name = none :=
    Option.not_isSome_iff_eq_none.mp (mt isSome_belowScope?_iff.mp isElsewhere)
  obtain ⟨after, declared, member⟩ :=
    exists_mem_of_declare (trim_import isLast notWhite) (by simp) prelude
  rw [String.ofList_toList] at member
  refine ⟨after, ?_, member⟩
  simp only [relative, Option.bind_some, notBelow, isOwner]
  simp only [bind, EStateM.bind, declared]
  rfl

end Relative

/-! ## References -/

/-- The ways to refer to an entity. -/
inductive Reference where
  | byType (type : CppType)
  | byShadowKey (key : String)
  deriving Repr, DecidableEq

/-- The text of a reference, if it leads to anything. -/
def Reference.render
    (context : ResolutionScope) :
    Reference → Resolving (Option String)
  | .byType type => some <$> resolve context type
  | .byShadowKey key => className? context key

/-- What a reference refers to: a class is known by its type and by its shadow key, and an enum
by its C++ name, unless that is the type of a class. -/
inductive Refers
    (model : BindingModel) :
    Reference → NamedEntity → Prop where
  | classType
      {entity : Class} :
      entity ∈ model.classes →
      Refers model (.byType entity.cppType) (.class entity)
  | classKey
      {entity : Class} :
      entity ∈ model.classes →
      Refers model (.byShadowKey entity.shadowKey) (.class entity)
  | enumName
      {entity : Enumeration} :
      entity ∈ model.enums →
      (∀ other ∈ model.classes, other.cppType ≠ .plain entity.cppName) →
      Refers model (.byType (.plain entity.cppName)) (.enum entity)

/-- A reference to a named entity is its name relative to the current module. -/
theorem Refers.render_eq
    {model : BindingModel}
    (looksUp : LooksUp model)
    {reference : Reference}
    {entity : NamedEntity}
    (refers : Refers model reference entity)
    {name : String}
    (isNamed : entity.qualifiedName = some name)
    (scope : Option String) :
    reference.render { model, scope } = some <$> relative { model, scope } name := by
  have className :
      ∀ {entity : Class},
        entity ∈ model.classes →
        entity.qualifiedName = some name →
        className? { model, scope } entity.shadowKey = some <$> relative { model, scope } name := by
    intro entity member isNamed
    have found := (looksUp.class? entity.shadowKey entity).mpr ⟨member, rfl⟩
    simp only [className?, found, isNamed]
    rfl
  -- resolution asks for registered entities before anything else
  have ofEntityName :
      ∀ {type : CppType},
        entityName? { model, scope } type = some <$> relative { model, scope } name →
        (Reference.byType type).render { model, scope } =
          some <$> relative { model, scope } name := by
    intro type isEntity
    funext prelude
    rw [Reference.render, resolve, isEntity]
    simp only [Functor.map, EStateM.map, bind, EStateM.bind, pure]
    cases relative { model, scope } name prelude <;> rfl
  cases refers with
  | @classType entity member =>
      refine ofEntityName ?_
      have found := (looksUp.classForType? entity.cppType entity).mpr ⟨member, rfl⟩
      simp only [entityName?, found]
      exact className member isNamed
  | classKey member => exact className member isNamed
  | @enumName entity member isNoClass =>
      refine ofEntityName ?_
      have noClass : model.classForType? (.plain entity.cppName) = none := by
        rw [Option.eq_none_iff_forall_not_mem]
        intro other found
        obtain ⟨inModel, sameType⟩ := (looksUp.classForType? _ other).mp found
        exact isNoClass other inModel sameType
      have found := (looksUp.enum? entity.cppName entity).mpr ⟨member, rfl⟩
      simp only [NamedEntity.qualifiedName] at isNamed
      simp only [entityName?, noClass, found, isNamed]
      rfl

section Named

variable
  {package : Option String}
  {model named : BindingModel}
  {owner : Module}
  {path : List String}
  {entity : NamedEntity}
  (assigned : assignNames package model = .ok () named)

include assigned in
/-- What is placed in a module of this run bears the name of the module, followed by its own. -/
theorem exists_name_of_placed
    (member : owner ∈ named.modules)
    (isLocal : owner.imported = false)
    (placed : Placed named owner.innerClasses owner.innerEnums path entity) :
    ∃ ownerName,
      owner.qualifiedName = some ownerName ∧
        entity.qualifiedName = some (qualify ownerName (localName path)) := by
  have through := (settles_assignNames package model).ensures assigned (.refl named)
  obtain ⟨ownerName, remaining, isNamed, below⟩ := through.container (.module member isLocal)
  exact ⟨ownerName, isNamed, placed.qualifiedName_eq below⟩

/-- A reference in the stub of the module that holds an entity is the name of the entity within
the module.  In the stub of another module it is the full name, and the module that holds the
entity is imported, provided that the full name does not go on from the name of the stub's own
module, nor from a longer module name than the one it begins with.  What an imported module
holds bears the names of the run that it comes from. -/
theorem reference_leads_to_owner
    (indexed : model.Indexed)
    (assigned : assignNames package model = .ok () named)
    {here : Module}
    (hereMember : here ∈ named.modules)
    (hereLocal : here.imported = false)
    (ownerMember : owner ∈ named.modules)
    (placed : Placed named owner.innerClasses owner.innerEnums path entity)
    (carriesNames :
      owner.imported = true →
      ∃ ownerName,
        owner.qualifiedName = some ownerName ∧
          entity.qualifiedName = some (qualify ownerName (localName path)))
    {reference : Reference}
    (refers : Refers named reference entity)
    (prelude : List String) :
    ∃ hereName ownerName fullName,
      here.qualifiedName = some hereName ∧
        owner.qualifiedName = some ownerName ∧
        entity.qualifiedName = some fullName ∧
        (owner = here →
          reference.render { model := named, scope := some hereName } prelude =
            .ok (some (localName path)) prelude) ∧
        (owner ≠ here →
          ¬ LiesBelow hereName fullName →
          (∀ other ∈ named.modules,
            ∀ otherName,
              other.qualifiedName = some otherName →
              LiesBelow otherName fullName →
              otherName.length ≤ ownerName.length) →
          (∃ last, ownerName.toList.getLast? = some last ∧ Text.isWhite last = false) →
          ∃ after,
            reference.render { model := named, scope := some hereName } prelude =
                .ok (some fullName) after ∧
              "import " ++ ownerName ∈ after) := by
  have settled := settles_assignNames package model
  have through := settled.ensures assigned (.refl named)
  have within := settled.within
  rw [Change.left_of_ok assigned] at within
  have looksUp := (within.indexed indexed).looksUp
  have hereNamed := through.qualifiedName_of_local hereMember hereLocal
  obtain ⟨ownerName, ownerNamed, entityNamed⟩ :
      ∃ ownerName,
        owner.qualifiedName = some ownerName ∧
          entity.qualifiedName = some (qualify ownerName (localName path)) := by
    cases isLocal : owner.imported with
    | false => exact exists_name_of_placed assigned ownerMember isLocal placed
    | true => exact carriesNames isLocal
  refine ⟨_, ownerName, _, hereNamed, ownerNamed, entityNamed, ?_, ?_⟩
  all_goals
    rw [refers.render_eq looksUp entityNamed]
    simp only [Functor.map, EStateM.map]
  · rintro rfl
    rw [ownerNamed, Option.some_inj] at hereNamed
    rw [← hereNamed, relative_of_eq_qualify prelude rfl]
  · rintro - isElsewhere isLongest ⟨last, isLast, notWhite⟩
    have isOwner : owningModule? named _ = some ownerName :=
      owningModule?_eq_some ⟨_, rfl⟩ ⟨owner, ownerMember, ownerNamed⟩ isLongest
    obtain ⟨after, shown, isImported⟩ :=
      exists_import_of_relative prelude isElsewhere isOwner isLast notWhite
    exact ⟨after, by rw [shown], isImported⟩

end Named

/-- A module with an enum inside a class, and a module of an earlier run. -/
def circles : BindingModel :=
  reindex
    { modules :=
        [{ cppName := "shapes"
           pythonName := "geo"
           declaredAt := some ⟨"shapes.cpp", 1, 1⟩
           innerClasses := ⟨[("Circle", ⟨"shapes.cpp", 2, 1⟩)]⟩ },
         { cppName := "clocks"
           pythonName := "time"
           qualifiedName := some "base.time"
           declaredAt := some ⟨"clocks.cpp", 1, 1⟩
           innerClasses := ⟨[("Timer", ⟨"clocks.cpp", 2, 1⟩)]⟩
           imported := true }]
      classes :=
        [{ shadowKey := "Circle"
           cppType := .plain "Circle"
           pythonName := "Circle"
           declaredAt := some ⟨"shapes.cpp", 2, 1⟩
           innerEnums := ⟨[("Circle::Half", ⟨"shapes.cpp", 3, 1⟩)]⟩ },
         { shadowKey := "Timer"
           cppType := .plain "Timer"
           pythonName := "Timer"
           qualifiedName := some "base.time.Timer"
           declaredAt := some ⟨"clocks.cpp", 2, 1⟩
           imported := true }]
      enums :=
        [{ pythonName := "Half"
           cppName := "Circle::Half"
           declaredAt := some ⟨"shapes.cpp", 4, 1⟩ }] }

/-- The circles with the names of this run. -/
def circlesNamed : BindingModel :=
  { circles with
    modules :=
      List.zipWith (fun entity name => { entity with qualifiedName := some name })
        circles.modules ["lib.geo", "base.time"]
    classes :=
      List.zipWith (fun entity name => { entity with qualifiedName := some name })
        circles.classes ["lib.geo.Circle", "base.time.Timer"]
    enums :=
      circles.enums.map fun entity =>
        { entity with qualifiedName := some "lib.geo.Circle.Half" } }

/-- The module of the circles names its enum without the module, and imports a timer. -/
theorem reference_leads_to_owner_of_enum_and_timer :
    ∃ after,
      circles.Indexed ∧
        assignNames (some "lib") circles = .ok () circlesNamed ∧
        Placed circlesNamed circlesNamed.modules[0].innerClasses
          circlesNamed.modules[0].innerEnums ["Circle", "Half"] (.enum circlesNamed.enums[0]) ∧
        Refers circlesNamed (.byType (.plain "Circle::Half")) (.enum circlesNamed.enums[0]) ∧
        Placed circlesNamed circlesNamed.modules[1].innerClasses
          circlesNamed.modules[1].innerEnums ["Timer"] (.class circlesNamed.classes[1]) ∧
        Refers circlesNamed (.byShadowKey "Timer") (.class circlesNamed.classes[1]) ∧
        Reference.render { model := circlesNamed, scope := some "lib.geo" }
            (.byType (.plain "Circle::Half")) [] =
          .ok (some "Circle.Half") [] ∧
        Reference.render { model := circlesNamed, scope := some "lib.geo" }
            (.byShadowKey "Timer") [] =
          .ok (some "base.time.Timer") after ∧
        "import base.time" ∈ after := by
  have indexed : circles.Indexed :=
    indexed_reindex (by decide) (by decide) (by decide) (by decide)
  have assigned : assignNames (some "lib") circles = .ok () circlesNamed :=
    Change.after?_eq_some_iff.mp (by decide +kernel)
  have isHere : circlesNamed.modules[0] ∈ circlesNamed.modules := by decide
  have circlePlaced : "Circle" ∈ circlesNamed.modules[0].innerClasses.keys := by decide
  have foundCircle : circlesNamed.class? "Circle" = some circlesNamed.classes[0] := by decide
  have halfPlaced : "Circle::Half" ∈ circlesNamed.classes[0].innerEnums.keys := by decide
  have foundHalf : circlesNamed.enum? "Circle::Half" = some circlesNamed.enums[0] := by decide
  have placedHalf :
      Placed circlesNamed circlesNamed.modules[0].innerClasses
        circlesNamed.modules[0].innerEnums ["Circle", "Half"] (.enum circlesNamed.enums[0]) :=
    .inside circlePlaced foundCircle (.enum halfPlaced foundHalf)
  have halfIsThere : circlesNamed.enums[0] ∈ circlesNamed.enums := by decide
  have refersHalf :
      Refers circlesNamed (.byType (.plain "Circle::Half")) (.enum circlesNamed.enums[0]) :=
    .enumName halfIsThere (by decide)
  have timerPlaced : "Timer" ∈ circlesNamed.modules[1].innerClasses.keys := by decide
  have foundTimer : circlesNamed.class? "Timer" = some circlesNamed.classes[1] := by decide
  have placedTimer :
      Placed circlesNamed circlesNamed.modules[1].innerClasses
        circlesNamed.modules[1].innerEnums ["Timer"] (.class circlesNamed.classes[1]) :=
    .class timerPlaced foundTimer
  have timerIsThere : circlesNamed.classes[1] ∈ circlesNamed.classes := by decide
  have refersTimer :
      Refers circlesNamed (.byShadowKey "Timer") (.class circlesNamed.classes[1]) :=
    .classKey timerIsThere
  obtain ⟨_, _, _, hereNamed, -, -, inside, -⟩ :=
    reference_leads_to_owner indexed assigned isHere (by decide) isHere placedHalf nofun
      refersHalf []
  cases hereNamed
  obtain ⟨_, _, _, hereNamed, ownerNamed, entityNamed, -, outside⟩ :=
    reference_leads_to_owner indexed assigned isHere (by decide) (by decide) placedTimer
      (fun _ => ⟨"base.time", rfl, by decide⟩) refersTimer []
  cases hereNamed
  cases ownerNamed
  cases entityNamed
  obtain ⟨after, shown, isImported⟩ :=
    outside (by decide) (by decide +kernel) (by decide +kernel)
      ⟨'e', by decide +kernel, by decide +kernel⟩
  exact ⟨after, indexed, assigned, placedHalf, refersHalf, placedTimer, refersTimer, inside rfl,
    shown, isImported⟩

/-- A module and another one whose name goes on from it and that holds a class. -/
def areas : BindingModel :=
  reindex
    { modules :=
        [{ cppName := "shapes"
           pythonName := "geo"
           declaredAt := some ⟨"shapes.cpp", 1, 1⟩ },
         { cppName := "areas"
           pythonName := "geo.area"
           declaredAt := some ⟨"areas.cpp", 1, 1⟩
           innerClasses := ⟨[("Circle", ⟨"areas.cpp", 2, 1⟩)]⟩ }]
      classes :=
        [{ shadowKey := "Circle"
           cppType := .plain "Circle"
           pythonName := "Circle"
           declaredAt := some ⟨"areas.cpp", 2, 1⟩ }] }

/-- The areas with their full names. -/
def areasNamed : BindingModel :=
  { areas with
    modules :=
      List.zipWith (fun entity name => { entity with qualifiedName := some name })
        areas.modules ["geo", "geo.area"]
    classes :=
      areas.classes.map fun entity => { entity with qualifiedName := some "geo.area.Circle" } }

/-- The module with the shorter name refers to a class of the other one by a shortened name,
without an import of the module that holds the class. -/
theorem reference_loses_owner :
    assignNames none areas = .ok () areasNamed ∧
      areasNamed.modules[0].qualifiedName = some "geo" ∧
      areasNamed.modules[0].imported = false ∧
      Placed areasNamed areasNamed.modules[1].innerClasses areasNamed.modules[1].innerEnums
        ["Circle"] (.class areasNamed.classes[0]) ∧
      Refers areasNamed (.byType (.plain "Circle")) (.class areasNamed.classes[0]) ∧
      areasNamed.classes[0].qualifiedName = some "geo.area.Circle" ∧
      Reference.render { model := areasNamed, scope := some "geo" } (.byType (.plain "Circle")) [] =
        .ok (some "area.Circle") [] := by
  have indexed : areas.Indexed :=
    indexed_reindex (by decide) (by decide) (by decide) (by decide)
  have assigned : assignNames none areas = .ok () areasNamed :=
    Change.after?_eq_some_iff.mp (by decide +kernel)
  have within := (settles_assignNames none areas).within
  rw [Change.left_of_ok assigned] at within
  have isPlaced : "Circle" ∈ areasNamed.modules[1].innerClasses.keys := by decide
  have found : areasNamed.class? "Circle" = some areasNamed.classes[0] := by decide
  have isThere : areasNamed.classes[0] ∈ areasNamed.classes := by decide
  have refers : Refers areasNamed (.byType (.plain "Circle")) (.class areasNamed.classes[0]) :=
    .classType isThere
  have isNamed :
      (NamedEntity.class areasNamed.classes[0]).qualifiedName = some "geo.area.Circle" := by
    decide
  have isBelow : "geo.area.Circle" = qualify "geo" "area.Circle" := by decide
  refine ⟨assigned, by decide, by decide, .class isPlaced found, refers, isNamed, ?_⟩
  rw [refers.render_eq (within.indexed indexed).looksUp isNamed]
  simp only [Functor.map, EStateM.map]
  rw [relative_of_eq_qualify [] isBelow]

end BindingStubs.Resolution
