import BindingStubs.Proofs.Combining.Parts
import Mathlib.Logic.Equiv.Defs

namespace BindingStubs

/-!
# The ways in which items are joined

Items under a key are joined when their keys are equal, items that repeat each other are
joined by keeping the first, and items may be joined through another view of them.
-/

namespace Joining

section Keyed

variable {Key Part : Type} [DecidableEq Key]

/--
Parts under keys.  Parts under the same key are combined; under different keys that meet,
they contradict each other.  `Fits` says what the parts under a key have to satisfy.
-/
def keyed
    (meets : Key → Key → Bool)
    (combining : Combining Part)
    (Fits : Key → Part → Prop) :
    Joining (Key × Part) where
  combine? first second :=
    if first.1 = second.1 then
      (combining.combine? first.2 second.2).map fun part => (first.1, part)
    else
      none
  Valid item :=
    combining.Valid item.2 ∧ Fits item.1 item.2
  Alike first second :=
    first.1 = second.1 ∧
      combining.Alike first.2 second.2 ∧
      (Fits first.1 first.2 ↔ Fits second.1 second.2)
  meets first second :=
    meets first.1 second.1

variable
  {meets : Key → Key → Bool}
  {combining : Combining Part}
  {Fits : Key → Part → Prop}

theorem keyed_combine?_same
    (key : Key)
    (first second : Part) :
    (keyed meets combining Fits).combine? (key, first) (key, second) =
      (combining.combine? first second).map fun part => (key, part) := by
  simp [keyed]

theorem keyed_combine?_of_ne
    {first second : Key × Part}
    (differ : first.1 ≠ second.1) :
    (keyed meets combining Fits).combine? first second = none := by
  simp [keyed, differ]

/-- A combination stands under the one key of its parts. -/
theorem keyed_combine?_eq_some
    {first second joined : Key × Part}
    (combined : (keyed meets combining Fits).combine? first second = some joined) :
    first.1 = joined.1 ∧
      second.1 = joined.1 ∧
      combining.combine? first.2 second.2 = some joined.2 := by
  simp only [keyed] at combined
  split at combined
  · rename_i same
    obtain ⟨part, parts, rfl⟩ := Option.map_eq_some_iff.mp combined
    exact ⟨rfl, same.symm, parts⟩
  · simp at combined

theorem keyed_assoc
    (lawful : combining.Lawful)
    {first second third : Key × Part}
    (firstValid : (keyed meets combining Fits).Valid first)
    (secondValid : (keyed meets combining Fits).Valid second)
    (thirdValid : (keyed meets combining Fits).Valid third) :
    ((keyed meets combining Fits).combine? first second).bind
        ((keyed meets combining Fits).combine? · third) =
      ((keyed meets combining Fits).combine? second third).bind
        ((keyed meets combining Fits).combine? first) := by
  obtain ⟨firstKey, firstPart⟩ := first
  obtain ⟨secondKey, secondPart⟩ := second
  obtain ⟨thirdKey, thirdPart⟩ := third
  by_cases firstSecond : firstKey = secondKey
  · by_cases secondThird : secondKey = thirdKey
    · subst firstSecond secondThird
      have assoc := congrArg (Option.map (Prod.mk firstKey))
        (lawful.assoc firstValid.1 secondValid.1 thirdValid.1)
      rw [keyed_combine?_same, keyed_combine?_same, Option.bind_map, Option.bind_map]
      simpa only [Function.comp_def, keyed_combine?_same, Option.map_bind] using assoc
    · subst firstSecond
      have apart :
          (keyed meets combining Fits).combine? (firstKey, secondPart)
            (thirdKey, thirdPart) = none :=
        keyed_combine?_of_ne secondThird
      rw [apart, keyed_combine?_same]
      cases combining.combine? firstPart secondPart with
      | none => rfl
      | some joined => exact keyed_combine?_of_ne secondThird
  · have apart :
        (keyed meets combining Fits).combine? (firstKey, firstPart)
          (secondKey, secondPart) = none :=
      keyed_combine?_of_ne firstSecond
    rw [apart]
    cases combined :
        (keyed meets combining Fits).combine? (secondKey, secondPart)
          (thirdKey, thirdPart) with
    | none => rfl
    | some joined =>
        have joinedKey := (keyed_combine?_eq_some combined).1
        exact (keyed_combine?_of_ne fun same => firstSecond (same.trans joinedKey.symm)).symm

/-- Combinations under one key are related when the parts are and all of them fit. -/
theorem keyed_rel_same
    (key : Key)
    (fits : combining.Keeps (Fits key))
    {first second first' second' : Part}
    (firstFits : Fits key first)
    (secondFits : Fits key second)
    (firstFits' : Fits key first')
    (secondFits' : Fits key second')
    (related :
      Option.Rel combining.Alike
        (combining.combine? first second) (combining.combine? first' second')) :
    Option.Rel (keyed meets combining Fits).Alike
      ((keyed meets combining Fits).combine? (key, first) (key, second))
      ((keyed meets combining Fits).combine? (key, first') (key, second')) := by
  rw [keyed_combine?_same, keyed_combine?_same]
  cases combined : combining.combine? first second <;>
    cases combined' : combining.combine? first' second' <;>
    rw [combined, combined'] at related <;>
    cases related
  · exact .none
  · rename_i alike
    exact .some ⟨rfl, alike,
      iff_of_true (fits _ _ _ firstFits secondFits combined)
        (fits _ _ _ firstFits' secondFits' combined')⟩

/-- Parts under keys are lawfully joined when the parts are lawfully combined. -/
theorem lawful_keyed
    (lawful : combining.Lawful)
    (meets_comm : ∀ first second, meets first second = meets second first)
    (fits : ∀ key, combining.Keeps (Fits key)) :
    (keyed meets combining Fits).Lawful where
  closed := by
    intro first second joined firstValid secondValid combined
    obtain ⟨firstKey, secondKey, parts⟩ := keyed_combine?_eq_some combined
    exact ⟨lawful.closed firstValid.1 secondValid.1 parts,
      fits _ _ _ _ (firstKey ▸ firstValid.2) (secondKey ▸ secondValid.2) parts⟩
  assoc := keyed_assoc lawful
  equivalence :=
    ⟨fun item => ⟨rfl, lawful.equivalence.refl item.2, Iff.rfl⟩,
      fun alike => ⟨alike.1.symm, lawful.equivalence.symm alike.2.1, alike.2.2.symm⟩,
      fun one other => ⟨one.1.trans other.1, lawful.equivalence.trans one.2.1 other.2.1,
        one.2.2.trans other.2.2⟩⟩
  alike_valid alike valid :=
    ⟨lawful.alike_valid alike.2.1 valid.1, alike.2.2.mp valid.2⟩
  comm := by
    rintro ⟨firstKey, first⟩ ⟨secondKey, second⟩ firstValid secondValid
    by_cases same : firstKey = secondKey
    · subst same
      exact keyed_rel_same firstKey (fits firstKey) firstValid.2 secondValid.2
        secondValid.2 firstValid.2
        (lawful.comm firstValid.1 secondValid.1)
    · rw [keyed_combine?_of_ne same, keyed_combine?_of_ne (Ne.symm same)]
      exact .none
  congr := by
    rintro ⟨firstKey, first⟩ ⟨firstKey', first'⟩ ⟨secondKey, second⟩ ⟨secondKey', second'⟩
      firstValid secondValid ⟨firstSame, firstAlike, firstFits⟩
      ⟨secondSame, secondAlike, secondFits⟩
    dsimp only at firstSame secondSame
    subst firstSame secondSame
    by_cases same : firstKey = secondKey
    · subst same
      exact keyed_rel_same firstKey (fits firstKey) firstValid.2 secondValid.2
        (firstFits.mp firstValid.2) (secondFits.mp secondValid.2)
        (lawful.congr firstValid.1 secondValid.1 firstAlike secondAlike)
    · rw [keyed_combine?_of_ne same, keyed_combine?_of_ne same]
      exact .none
  meets_comm first second := meets_comm first.1 second.1
  meets_combined := by
    intro first second joined combined other
    obtain ⟨firstKey, secondKey, _⟩ := keyed_combine?_eq_some combined
    simp [keyed, firstKey, secondKey]
  meets_alike alike other := by
    simp [keyed, alike.1]

end Keyed

section View

variable {Item Whole : Type}

/-- Items joined through another view of them. -/
def through
    (joining : Joining Whole)
    (view : Item ≃ Whole) :
    Joining Item where
  combine? first second :=
    (joining.combine? (view first) (view second)).map view.symm
  Valid item :=
    joining.Valid (view item)
  Alike first second :=
    joining.Alike (view first) (view second)
  meets first second :=
    joining.meets (view first) (view second)

/-- Items are lawfully joined through a view when what is viewed is. -/
theorem Lawful.through
    {joining : Joining Whole}
    (lawful : joining.Lawful)
    (view : Item ≃ Whole) :
    (joining.through view).Lawful where
  closed := by
    intro first second joined firstValid secondValid combined
    obtain ⟨whole, combinedWhole, rfl⟩ := Option.map_eq_some_iff.mp combined
    simpa [Joining.through] using lawful.closed firstValid secondValid combinedWhole
  assoc := by
    intro first second third firstValid secondValid thirdValid
    have assoc := congrArg (Option.map view.symm)
      (lawful.assoc firstValid secondValid thirdValid)
    simpa [Joining.through, Option.bind_map, Option.map_bind, Function.comp_def] using assoc
  equivalence :=
    ⟨fun item => lawful.equivalence.refl (view item), lawful.equivalence.symm,
      lawful.equivalence.trans⟩
  alike_valid := lawful.alike_valid
  comm := by
    intro first second firstValid secondValid
    refine rel_map (lawful.comm firstValid secondValid) ?_
    intro one other alike
    simpa [Joining.through] using alike
  congr := by
    intro first first' second second' firstValid secondValid firstAlike secondAlike
    refine rel_map (lawful.congr firstValid secondValid firstAlike secondAlike) ?_
    intro one other alike
    simpa [Joining.through] using alike
  meets_comm first second := lawful.meets_comm (view first) (view second)
  meets_combined := by
    intro first second joined combined other
    obtain ⟨whole, combinedWhole, rfl⟩ := Option.map_eq_some_iff.mp combined
    simpa [Joining.through] using lawful.meets_combined combinedWhole (view other)
  meets_alike alike other := lawful.meets_alike alike (view other)

/-- Items known by a key, with a blank item for every key that says nothing about it. -/
structure Identified
    {Key : Type}
    (joining : Joining Item)
    (key : Item → Key)
    (blank : Key → Item) : Prop where
  key_blank :
    ∀ itemKey, key (blank itemKey) = itemKey
  valid_blank :
    ∀ itemKey, joining.Valid (blank itemKey)
  meets_of_key_eq :
    ∀ {one other},
      key one = key other →
      ∀ item, joining.meets item one = joining.meets item other
  key_eq_of_combine? :
    ∀ {one other joined},
      joining.combine? one other = some joined →
      key one = key other ∧ key joined = key one
  blank_combine? :
    ∀ {item}, joining.Valid item → joining.combine? (blank (key item)) item = some item
  combine?_blank :
    ∀ item, joining.combine? item (blank (key item)) = some item

/-- Items whose view is a key with parts are known by that key. -/
theorem identified_through
    {Key Part : Type}
    [DecidableEq Key]
    {meets : Key → Key → Bool}
    {combining : Combining Part}
    {nothing : Part}
    (neutral : combining.Neutral nothing)
    (view : Item ≃ Key × Part) :
    ((keyed meets combining fun _ _ => True).through view).Identified
      (fun item => (view item).1) (fun key => view.symm (key, nothing)) where
  key_blank itemKey := by
    simp
  valid_blank itemKey := by
    simpa [Joining.through, keyed] using neutral.valid
  meets_of_key_eq sameKey item := by
    simp [Joining.through, keyed, sameKey]
  key_eq_of_combine? combined := by
    obtain ⟨whole, combinedWhole, rfl⟩ := Option.map_eq_some_iff.mp combined
    obtain ⟨oneKey, otherKey, _⟩ := keyed_combine?_eq_some combinedWhole
    simp [oneKey, otherKey]
  blank_combine? := by
    intro item valid
    have rebuilt : view.symm ((view item).1, (view item).2) = item := view.symm_apply_apply item
    simp [Joining.through, keyed, neutral.left valid.1, rebuilt]
  combine?_blank item := by
    have rebuilt : view.symm ((view item).1, (view item).2) = item := view.symm_apply_apply item
    simp [Joining.through, keyed, neutral.right, rebuilt]

end View

section Repeating

variable {Item Key Form : Type} [DecidableEq Key] [DecidableEq Form]

/-- Items of which the first under a key stays, provided that later ones have its form. -/
def repeating
    (key : Item → Key)
    (form : Item → Form) :
    Joining Item where
  combine? first second :=
    if key first = key second ∧ form first = form second then some first else none
  Valid _ :=
    True
  Alike first second :=
    key first = key second ∧ form first = form second
  meets first second :=
    decide (key first = key second)

theorem lawful_repeating
    (key : Item → Key)
    (form : Item → Form) :
    (repeating key form).Lawful where
  closed _ _ _ := trivial
  assoc := by
    intro first second third _ _ _
    simp only [repeating]
    by_cases firstSecond : key first = key second ∧ form first = form second
    · by_cases secondThird : key second = key third ∧ form second = form third
      · simp [firstSecond, secondThird]
      · simp [firstSecond, secondThird]
    · by_cases secondThird : key second = key third ∧ form second = form third
      · have firstThird : ¬ (key first = key third ∧ form first = form third) := by
          simpa [secondThird] using firstSecond
        simp [secondThird, firstThird]
      · simp [firstSecond, secondThird]
  equivalence :=
    ⟨fun _ => ⟨rfl, rfl⟩, fun alike => ⟨alike.1.symm, alike.2.symm⟩,
      fun one other => ⟨one.1.trans other.1, one.2.trans other.2⟩⟩
  alike_valid _ _ := trivial
  comm := by
    intro first second _ _
    by_cases same : key first = key second ∧ form first = form second
    · simp [repeating, same]
    · have same' : ¬ (key second = key first ∧ form second = form first) := by
        simpa [eq_comm] using same
      simp [repeating, same, same']
  congr := by
    intro first first' second second' _ _ firstAlike secondAlike
    by_cases same : key first = key second ∧ form first = form second
    · simp [repeating, ← firstAlike.1, ← firstAlike.2, ← secondAlike.1, ← secondAlike.2,
        same]
    · simp [repeating, ← firstAlike.1, ← firstAlike.2, ← secondAlike.1, ← secondAlike.2,
        same]
  meets_comm first second := by
    simp [repeating, eq_comm]
  meets_combined := by
    intro first second joined combined other
    simp only [repeating] at combined
    split at combined
    · rename_i same
      cases combined
      simp [repeating, same.1]
    · simp at combined
  meets_alike alike other := by
    simp [repeating, alike.1]

/-- Whether an item is repeated is decided by the first item under its key. -/
theorem repeating_insert?
    (key : Item → Key)
    (form : Item → Form)
    (item : Item)
    (items : List Item) :
    (repeating key form).insert? item items =
      match items.find? (fun former => decide (key former = key item)) with
      | none => some (items ++ [item])
      | some former => if form former = form item then some items else none := by
  induction items with
  | nil => rfl
  | cons first rest inductionHypothesis =>
      by_cases same : key first = key item
      · rw [insert?_cons_of_meets (by simpa [repeating] using same)]
        by_cases sameForm : form first = form item <;>
          simp [repeating, same, sameForm]
      · rw [insert?_cons_of_not_meets (by simpa [repeating] using same), inductionHypothesis,
          List.find?_cons_of_neg (by simpa using same)]
        cases rest.find? (fun former => decide (key former = key item)) with
        | none => rfl
        | some former => by_cases sameForm : form former = form item <;> simp [sameForm]

/-- Taking in repeated items keeps the first of them as it is. -/
theorem repeating_keeps
    (key : Item → Key)
    (form : Item → Form)
    (Condition : Item → Prop) :
    (repeating key form).Keeps Condition := by
  intro first second joined firstGood _ combined
  simp only [repeating] at combined
  split at combined
  · cases combined
    exact firstGood
  · simp at combined

end Repeating

section Members

variable {Item : Type} {joining : Joining Item} {Condition : Item → Prop}

/-- A condition that combining keeps holds in a list that took in a list. -/
theorem Lawful.forall_mem_insertAll?
    (lawful : joining.Lawful)
    (keeps : joining.Keeps Condition)
    {items incoming extended : List Item}
    (itemsGood : ∀ item ∈ items, Condition item)
    (incomingGood : ∀ item ∈ incoming, Condition item)
    (inserted : joining.insertAll? items incoming = some extended) :
    ∀ item ∈ extended, Condition item := by
  induction incoming generalizing items with
  | nil =>
      cases inserted
      exact itemsGood
  | cons item rest inductionHypothesis =>
      obtain ⟨between, insertedItem, insertedRest⟩ := Option.bind_eq_some_iff.mp inserted
      have itemGood := incomingGood item (List.mem_cons_self ..)
      refine inductionHypothesis ?_
        (fun other member => incomingGood other (List.mem_cons_of_mem _ member)) insertedRest
      intro found member
      rcases lawful.origin_of_mem_insert? insertedItem member with
        rfl | ⟨former, formerMember, _, rfl | combined⟩
      · exact itemGood
      · exact itemsGood found formerMember
      · exact keeps former item found (itemsGood former formerMember) itemGood combined

/-- A list that is not empty takes in others and is not empty. -/
theorem Lawful.insertAll?_ne_nil
    (lawful : joining.Lawful)
    {items incoming extended : List Item}
    (occupied : items ≠ [])
    (inserted : joining.insertAll? items incoming = some extended) :
    extended ≠ [] := by
  induction incoming generalizing items with
  | nil =>
      cases inserted
      exact occupied
  | cons item rest inductionHypothesis =>
      obtain ⟨between, insertedItem, insertedRest⟩ := Option.bind_eq_some_iff.mp inserted
      obtain ⟨found, member, _⟩ := lawful.exists_mem_of_insert? insertedItem
      exact inductionHypothesis (List.ne_nil_of_mem member) insertedRest

theorem insert?_of_findIdx?_eq_none
    {item : Item}
    {items : List Item}
    (absent : items.findIdx? (joining.meets · item) = none) :
    joining.insert? item items = some (items ++ [item]) :=
  insert?_eq_append (List.findIdx?_eq_none_iff.mp absent)

theorem insert?_of_findIdx?_eq_some
    {item : Item}
    {items : List Item}
    {position : Nat}
    (found : items.findIdx? (joining.meets · item) = some position) :
    ∃ former ∈ items,
      items[position]? = some former ∧
        joining.meets former item = true ∧
        joining.insert? item items =
          (joining.combine? former item).map fun joined => items.set position joined := by
  induction items generalizing position with
  | nil => simp at found
  | cons first rest inductionHypothesis =>
      rw [List.findIdx?_cons] at found
      cases met : joining.meets first item with
      | true =>
          obtain rfl : 0 = position := by simpa [met] using found
          exact ⟨first, by simp, rfl, met, insert?_cons_of_meets met rest⟩
      | false =>
          simp only [met, Bool.false_eq_true, if_false, Option.map_eq_some_iff] at found
          obtain ⟨restPosition, foundRest, rfl⟩ := found
          obtain ⟨former, member, atPosition, metFormer, inserted⟩ :=
            inductionHypothesis foundRest
          refine ⟨former, List.mem_cons_of_mem _ member, by simpa using atPosition,
            metFormer, ?_⟩
          rw [insert?_cons_of_not_meets met, inserted, Option.map_map]
          rfl

end Members

end Joining

end BindingStubs
