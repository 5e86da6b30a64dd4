import BindingStubs.Proofs.Model.Agreement
import BindingStubs.Proofs.Model.Splitting

namespace BindingStubs.BindingModel

/-!
# The order of fragments

A run merges the fragments of its inputs one by one.  Whether this succeeds does not depend
on the order of the inputs, and what it leads to depends on it only up to order.
-/

/-- A model that registrations build from the empty one. -/
def Built
    (model : BindingModel) :
    Prop :=
  ∃ registrations, Registration.performAll registrations empty = .ok () model

/-- The contents of a model. -/
def contentsOf
    (model : BindingModel) :
    Contents :=
  (model.modules, model.classes, model.enums, model.rules.entries)

/-- A model with valid contents, whose tables are those of its lists. -/
structure Sound
    (model : BindingModel) : Prop where
  valid : contents.Valid model.contentsOf
  rebuilt : ofContents model.contentsOf = model

theorem sound_ofContents
    {whole : Contents}
    (valid : contents.Valid whole) :
    (ofContents whole).Sound :=
  ⟨valid, rfl⟩

theorem Built.sound
    {model : BindingModel}
    (built : model.Built) :
    model.Sound := by
  obtain ⟨registrations, performed⟩ := built
  obtain ⟨whole, valid, rfl⟩ := Registration.exists_contents_of_performAll performed
  exact sound_ofContents valid

/-- Merging sound models one by one is gathering their contents. -/
theorem after?_forAll_merge
    {fragments : List BindingModel}
    (sound : ∀ fragment ∈ fragments, fragment.Sound)
    {whole : Contents}
    (valid : contents.Valid whole) :
    Change.after? (forAll merge fragments) (ofContents whole) =
      (contents.gather? whole (fragments.map contentsOf)).map ofContents := by
  induction fragments generalizing whole with
  | nil => rfl
  | cons fragment rest inductionHypothesis =>
      obtain ⟨fragmentValid, isFragment⟩ := sound fragment (List.mem_cons_self ..)
      have restSound : ∀ other ∈ rest, other.Sound :=
        fun other member => sound other (List.mem_cons_of_mem _ member)
      have merged := after?_merge valid fragmentValid
      rw [isFragment] at merged
      rw [Change.after?_forAll_cons, merged, Option.bind_map, List.map_cons,
        Combining.gather?, Option.map_bind]
      refine Option.bind_congr fun extended combined => ?_
      exact inductionHypothesis restSound
        (lawful_contents.closed valid fragmentValid combined)

/-- Merging permuted fragments has the same outcome up to order. -/
theorem rel_forAll_merge
    {fragments permuted : List BindingModel}
    (built : ∀ fragment ∈ fragments, fragment.Built)
    (permutation : fragments.Perm permuted) :
    Option.Rel Agrees
      (Change.after? (forAll merge fragments) empty)
      (Change.after? (forAll merge permuted) empty) := by
  have sound : ∀ fragment ∈ fragments, fragment.Sound :=
    fun fragment member => (built fragment member).sound
  have permutedSound : ∀ fragment ∈ permuted, fragment.Sound :=
    fun fragment member => sound fragment (permutation.mem_iff.mpr member)
  have partsValid : ∀ part ∈ fragments.map contentsOf, contents.Valid part := by
    intro part member
    obtain ⟨fragment, fragmentMember, rfl⟩ := List.mem_map.mp member
    exact (sound fragment fragmentMember).valid
  rw [← ofContents_nothing, after?_forAll_merge sound neutral_nothing.valid,
    after?_forAll_merge permutedSound neutral_nothing.valid, Option.map_eq_bind,
    Option.map_eq_bind]
  refine rel_bind
    (lawful_contents.gather?_perm neutral_nothing.valid partsValid
      (permutation.map contentsOf)) ?_
  intro whole whole' gathered _ alike
  exact .some (agrees_of_alike
    (lawful_contents.gather?_valid neutral_nothing.valid partsValid gathered) alike)

/--
Merging built fragments one by one into the empty model succeeds in every order or in none,
and the models that two orders lead to agree.
-/
theorem merge_order_irrelevant
    {fragments permuted : List BindingModel}
    (built : ∀ fragment ∈ fragments, fragment.Built)
    (permutation : fragments.Perm permuted) :
    ((∃ model, forAll merge fragments empty = .ok () model) ↔
        ∃ model, forAll merge permuted empty = .ok () model) ∧
      ∀ model model',
        forAll merge fragments empty = .ok () model →
        forAll merge permuted empty = .ok () model' →
        model.Agrees model' := by
  have related := rel_forAll_merge built permutation
  simp only [← Change.after?_eq_some_iff]
  constructor
  · rw [← Option.isSome_iff_exists, ← Option.isSome_iff_exists, isSome_eq_of_rel related]
  · intro model model' merged merged'
    rw [merged, merged'] at related
    cases related with
    | some agree => exact agree

/-- The model that registrations build from the empty one, if they are accepted. -/
def fragmentOf
    (registrations : List Registration) :
    BindingModel :=
  (Change.after? (Registration.performAll registrations) empty).getD empty

theorem built_fragmentOf
    {registrations : List Registration}
    (accepted :
      (Change.after? (Registration.performAll registrations) empty).isSome = true) :
    (fragmentOf registrations).Built := by
  obtain ⟨model, reached⟩ := Option.isSome_iff_exists.mp accepted
  rw [fragmentOf, reached]
  exact ⟨registrations, Change.after?_eq_some_iff.mp reached⟩

/-- A function of a module and one half of a property, as one file may register them. -/
def halfFile
    (site : Location)
    (getterType setterType : Option CppType) :
    List Registration :=
  [.addFunction "shapes" "area"
      { signature := { returns := getterType, parameters := [], spelling := "" }
        doc := none
        isStatic := false
        cppSignature := ""
        location := site },
    .addProperty "Shadow<Box>" (.plain "Box") site
      { name := "side"
        doc := none
        getterType
        setterType
        setterParameter := none
        location := site }]

/-- A declaration of a class and a rule with a parameter, as a third file may register them. -/
def ruleFile : List Registration :=
  [.declareClass "Shadow<Box>" (.plain "Box") "Box" (some "A box.") none ⟨"rules.cpp", 3, 1⟩,
    .addRule
      { pattern := .applied "vector" [.plain "T"]
        rendering := "list[\x7bT\x7d]"
        parameters := ["T"]
        declarations := []
        location := ⟨"rules.cpp", 5, 1⟩ }]

/-- Three files that complete each other may be merged in either order. -/
theorem merge_order_irrelevant_for_three_files :
    let getter := fragmentOf (halfFile ⟨"getter.cpp", 1, 1⟩ (some (.plain "int")) none)
    let setter := fragmentOf (halfFile ⟨"setter.cpp", 2, 1⟩ none (some (.plain "long")))
    let rules := fragmentOf ruleFile
    (∀ fragment ∈ [getter, setter, rules], fragment.Built) ∧
      [getter, setter, rules].Perm [rules, setter, getter] ∧
      ∃ model model',
        forAll merge [getter, setter, rules] empty = .ok () model ∧
          forAll merge [rules, setter, getter] empty = .ok () model' ∧
          model.Agrees model' := by
  intro getter setter rules
  have built : ∀ fragment ∈ [getter, setter, rules], fragment.Built := by
    intro fragment member
    simp only [List.mem_cons, List.not_mem_nil, or_false] at member
    rcases member with rfl | rfl | rfl
    all_goals exact built_fragmentOf (by decide +kernel)
  have permutation : [getter, setter, rules].Perm [rules, setter, getter] :=
    (List.reverse_perm [getter, setter, rules]).symm
  obtain ⟨sameSuccess, agree⟩ := merge_order_irrelevant built permutation
  have accepted :
      (Change.after? (forAll merge [getter, setter, rules]) empty).isSome = true := by
    decide +kernel
  obtain ⟨model, reached⟩ := Option.isSome_iff_exists.mp accepted
  have merged := Change.after?_eq_some_iff.mp reached
  obtain ⟨model', merged'⟩ := sameSuccess.mp ⟨model, merged⟩
  exact ⟨built, permutation, model, model', merged, merged', agree model model' merged merged'⟩

end BindingStubs.BindingModel
