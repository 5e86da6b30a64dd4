import Mathlib.Data.List.Basic

namespace BindingStubs

/-!
# Combining partial descriptions

A thing may be described in several places, each of which knows a part of it.  Two
descriptions are combined into one unless they contradict each other.  A list of items, no
two of which speak of the same thing, takes in another item by combining it with the item it
meets, or by appending it.  The main result is that taking in whole lists is associative:
it does not matter whether items are taken in one by one or collected before.
-/

/--
How two descriptions of one thing are combined.  `Alike` relates descriptions that say the
same up to what depends on the order of combining.
-/
structure Combining (Part : Type) where
  combine? : Part → Part → Option Part
  Valid : Part → Prop
  Alike : Part → Part → Prop

/-- Combining is associative, and commutative up to alikeness. -/
structure Combining.Lawful
    {Part : Type}
    (combining : Combining Part) : Prop where
  closed :
    ∀ {first second joined},
      combining.Valid first →
      combining.Valid second →
      combining.combine? first second = some joined →
      combining.Valid joined
  assoc :
    ∀ {first second third},
      combining.Valid first →
      combining.Valid second →
      combining.Valid third →
      (combining.combine? first second).bind (combining.combine? · third) =
        (combining.combine? second third).bind (combining.combine? first)
  equivalence :
    Equivalence combining.Alike
  alike_valid :
    ∀ {first second},
      combining.Alike first second →
      combining.Valid first →
      combining.Valid second
  comm :
    ∀ {first second},
      combining.Valid first →
      combining.Valid second →
      Option.Rel combining.Alike
        (combining.combine? first second) (combining.combine? second first)
  congr :
    ∀ {first first' second second'},
      combining.Valid first →
      combining.Valid second →
      combining.Alike first first' →
      combining.Alike second second' →
      Option.Rel combining.Alike
        (combining.combine? first second) (combining.combine? first' second')

/-- Combining of items that stand in a list; items that meet may not stand side by side. -/
structure Joining (Item : Type) extends Combining Item where
  meets : Item → Item → Bool

/-- Items that combine meet the same items, and so does their combination. -/
structure Joining.Lawful
    {Item : Type}
    (joining : Joining Item) : Prop
    extends joining.toCombining.Lawful where
  meets_comm :
    ∀ first second,
      joining.meets first second = joining.meets second first
  meets_combined :
    ∀ {first second joined},
      joining.combine? first second = some joined →
      ∀ other,
        joining.meets first other = joining.meets joined other ∧
          joining.meets second other = joining.meets joined other
  meets_alike :
    ∀ {first second},
      joining.Alike first second →
      ∀ other, joining.meets first other = joining.meets second other

namespace Joining

variable {Item : Type}

/-- Take an item into a list: combine it with the first item it meets, or append it. -/
def insert?
    (joining : Joining Item)
    (item : Item) :
    List Item → Option (List Item)
  | [] => some [item]
  | first :: rest =>
      if joining.meets first item then
        (joining.combine? first item).map (· :: rest)
      else
        (joining.insert? item rest).map (first :: ·)

/-- Take the items of a list into another list, from left to right. -/
def insertAll?
    (joining : Joining Item) :
    (items incoming : List Item) → Option (List Item)
  | items, [] => some items
  | items, item :: incoming =>
      (joining.insert? item items).bind fun extended =>
        joining.insertAll? extended incoming

/-- A list of valid items that do not meet each other. -/
structure Tidy
    (joining : Joining Item)
    (items : List Item) : Prop where
  valid :
    ∀ item ∈ items, joining.Valid item
  apart :
    items.Pairwise fun first second => joining.meets first second = false

@[simp] theorem tidy_nil
    (joining : Joining Item) :
    joining.Tidy [] :=
  ⟨by simp, List.Pairwise.nil⟩

theorem tidy_cons
    {joining : Joining Item}
    {first : Item}
    {rest : List Item} :
    joining.Tidy (first :: rest) ↔
      joining.Valid first ∧
        (∀ other ∈ rest, joining.meets first other = false) ∧
        joining.Tidy rest := by
  constructor
  · rintro ⟨valid, apart⟩
    obtain ⟨firstApart, restApart⟩ := List.pairwise_cons.mp apart
    exact ⟨valid first (List.mem_cons_self ..), firstApart,
      fun item member => valid item (List.mem_cons_of_mem _ member), restApart⟩
  · rintro ⟨firstValid, firstApart, restValid, restApart⟩
    refine ⟨?_, List.pairwise_cons.mpr ⟨firstApart, restApart⟩⟩
    intro item member
    rcases List.mem_cons.mp member with isFirst | inRest
    · exact isFirst ▸ firstValid
    · exact restValid item inRest

@[simp] theorem tidy_singleton
    {joining : Joining Item}
    {item : Item} :
    joining.Tidy [item] ↔ joining.Valid item := by
  simp [tidy_cons]

theorem insert?_nil
    (joining : Joining Item)
    (item : Item) :
    joining.insert? item [] = some [item] :=
  rfl

theorem insert?_cons_of_meets
    {joining : Joining Item}
    {first item : Item}
    (met : joining.meets first item = true)
    (rest : List Item) :
    joining.insert? item (first :: rest) =
      (joining.combine? first item).map (· :: rest) := by
  rw [insert?, if_pos met]

theorem insert?_cons_of_not_meets
    {joining : Joining Item}
    {first item : Item}
    (unmet : joining.meets first item = false)
    (rest : List Item) :
    joining.insert? item (first :: rest) =
      (joining.insert? item rest).map (first :: ·) := by
  rw [insert?, if_neg (by simp [unmet])]

/-- An item that meets nothing is appended. -/
theorem insert?_eq_append
    {joining : Joining Item}
    {item : Item}
    {items : List Item}
    (unmet : ∀ other ∈ items, joining.meets other item = false) :
    joining.insert? item items = some (items ++ [item]) := by
  induction items with
  | nil => rfl
  | cons first rest inductionHypothesis =>
      rw [insert?_cons_of_not_meets (unmet first (List.mem_cons_self ..)),
        inductionHypothesis fun other member =>
          unmet other (List.mem_cons_of_mem _ member)]
      rfl

@[simp] theorem insertAll?_nil
    (joining : Joining Item)
    (items : List Item) :
    joining.insertAll? items [] = some items :=
  rfl

@[simp] theorem insertAll?_singleton
    (joining : Joining Item)
    (items : List Item)
    (item : Item) :
    joining.insertAll? items [item] = joining.insert? item items :=
  Option.bind_fun_some _

theorem insertAll?_append
    (joining : Joining Item)
    (items first second : List Item) :
    joining.insertAll? items (first ++ second) =
      (joining.insertAll? items first).bind (joining.insertAll? · second) := by
  induction first generalizing items with
  | nil => rfl
  | cons item rest inductionHypothesis =>
      simp only [List.cons_append, insertAll?, inductionHypothesis, Option.bind_assoc]

/-- A tidy list is taken in as it stands behind items that it does not meet. -/
theorem insertAll?_eq_append
    {joining : Joining Item}
    {items incoming : List Item}
    (apart : (items ++ incoming).Pairwise fun first second =>
      joining.meets first second = false) :
    joining.insertAll? items incoming = some (items ++ incoming) := by
  induction incoming generalizing items with
  | nil => simp [insertAll?]
  | cons item rest inductionHypothesis =>
      have unmet : ∀ other ∈ items, joining.meets other item = false := by
        intro other member
        exact (List.pairwise_append.mp apart).2.2 other member item (List.mem_cons_self ..)
      rw [insertAll?, insert?_eq_append unmet, Option.bind_some, inductionHypothesis]
      · simp
      · simpa using apart

theorem insertAll?_nil_of_tidy
    {joining : Joining Item}
    {items : List Item}
    (tidy : joining.Tidy items) :
    joining.insertAll? [] items = some items :=
  insertAll?_eq_append (by simpa using tidy.apart)

/-- What is said by a combination if it is said by one of both items is said in a list that took in
an item if it was said there or is said by the item. -/
theorem insert?_tells_iff
    {joining : Joining Item}
    {Tells : Item → Prop}
    (tells_iff :
      ∀ {first second joined},
        joining.combine? first second = some joined →
        (Tells joined ↔ Tells first ∨ Tells second))
    {item : Item}
    {items extended : List Item}
    (inserted : joining.insert? item items = some extended) :
    (∃ found ∈ extended, Tells found) ↔ (∃ former ∈ items, Tells former) ∨ Tells item := by
  induction items generalizing extended with
  | nil =>
      cases inserted
      simp
  | cons first rest inductionHypothesis =>
      cases met : joining.meets first item with
      | true =>
          rw [insert?_cons_of_meets met, Option.map_eq_some_iff] at inserted
          obtain ⟨joined, combined, rfl⟩ := inserted
          rw [List.exists_mem_cons_iff, List.exists_mem_cons_iff, tells_iff combined, or_right_comm]
      | false =>
          rw [insert?_cons_of_not_meets met, Option.map_eq_some_iff] at inserted
          obtain ⟨rest', insertedRest, rfl⟩ := inserted
          rw [List.exists_mem_cons_iff, List.exists_mem_cons_iff,
            inductionHypothesis insertedRest, or_assoc]

theorem insertAll?_tells_iff
    {joining : Joining Item}
    {Tells : Item → Prop}
    (tells_iff :
      ∀ {first second joined},
        joining.combine? first second = some joined →
        (Tells joined ↔ Tells first ∨ Tells second))
    {items incoming extended : List Item}
    (inserted : joining.insertAll? items incoming = some extended) :
    (∃ found ∈ extended, Tells found) ↔
      (∃ former ∈ items, Tells former) ∨ ∃ item ∈ incoming, Tells item := by
  induction incoming generalizing items with
  | nil =>
      cases inserted
      simp
  | cons item rest inductionHypothesis =>
      rw [insertAll?, Option.bind_eq_some_iff] at inserted
      obtain ⟨between, insertedFirst, insertedRest⟩ := inserted
      rw [inductionHypothesis insertedRest, insert?_tells_iff tells_iff insertedFirst,
        List.exists_mem_cons_iff, or_assoc]

namespace Lawful

variable {joining : Joining Item}

/-- An item that was taken in is found in the result, perhaps combined with another. -/
theorem exists_mem_of_insert?
    (lawful : joining.Lawful)
    {item : Item}
    {items extended : List Item}
    (inserted : joining.insert? item items = some extended) :
    ∃ found ∈ extended,
      (∀ other, joining.meets found other = joining.meets item other) ∧
        (found = item ∨
          ∃ former ∈ items, joining.combine? former item = some found) := by
  induction items generalizing extended with
  | nil =>
      cases inserted
      exact ⟨item, by simp, fun _ => rfl, .inl rfl⟩
  | cons first rest inductionHypothesis =>
      cases met : joining.meets first item with
      | true =>
          rw [insert?_cons_of_meets met, Option.map_eq_some_iff] at inserted
          obtain ⟨joined, combined, rfl⟩ := inserted
          refine ⟨joined, List.mem_cons_self .., ?_, .inr ⟨first, by simp, combined⟩⟩
          exact fun other => (lawful.meets_combined combined other).2.symm
      | false =>
          rw [insert?_cons_of_not_meets met, Option.map_eq_some_iff] at inserted
          obtain ⟨rest', insertedRest, rfl⟩ := inserted
          obtain ⟨found, member, sameMeets, origin⟩ := inductionHypothesis insertedRest
          refine ⟨found, List.mem_cons_of_mem _ member, sameMeets, ?_⟩
          rcases origin with isItem | ⟨former, formerMember, combined⟩
          · exact .inl isItem
          · exact .inr ⟨former, List.mem_cons_of_mem _ formerMember, combined⟩

/-- Whatever is in the result meets no more than a former item or the new one. -/
theorem origin_of_mem_insert?
    (lawful : joining.Lawful)
    {item found : Item}
    {items extended : List Item}
    (inserted : joining.insert? item items = some extended)
    (member : found ∈ extended) :
    found = item ∨
      ∃ former ∈ items,
        (∀ other, joining.meets found other = joining.meets former other) ∧
          (found = former ∨ joining.combine? former item = some found) := by
  induction items generalizing extended with
  | nil =>
      cases inserted
      exact .inl (List.mem_singleton.mp member)
  | cons first rest inductionHypothesis =>
      cases met : joining.meets first item with
      | true =>
          rw [insert?_cons_of_meets met, Option.map_eq_some_iff] at inserted
          obtain ⟨joined, combined, rfl⟩ := inserted
          rcases List.mem_cons.mp member with rfl | inRest
          · refine .inr ⟨first, List.mem_cons_self .., ?_, .inr combined⟩
            exact fun other => (lawful.meets_combined combined other).1.symm
          · exact .inr ⟨found, List.mem_cons_of_mem _ inRest, fun _ => rfl, .inl rfl⟩
      | false =>
          rw [insert?_cons_of_not_meets met, Option.map_eq_some_iff] at inserted
          obtain ⟨rest', insertedRest, rfl⟩ := inserted
          rcases List.mem_cons.mp member with rfl | inRest
          · exact .inr ⟨found, List.mem_cons_self .., fun _ => rfl, .inl rfl⟩
          · rcases inductionHypothesis insertedRest inRest with
              isItem | ⟨former, formerMember, origin⟩
            · exact .inl isItem
            · exact .inr ⟨former, List.mem_cons_of_mem _ formerMember, origin⟩

/-- Taking in a valid item keeps a list tidy. -/
theorem insert?_tidy
    (lawful : joining.Lawful)
    {item : Item}
    {items extended : List Item}
    (tidy : joining.Tidy items)
    (valid : joining.Valid item)
    (inserted : joining.insert? item items = some extended) :
    joining.Tidy extended := by
  induction items generalizing extended with
  | nil =>
      cases inserted
      exact tidy_singleton.mpr valid
  | cons first rest inductionHypothesis =>
      obtain ⟨firstValid, firstApart, restTidy⟩ := tidy_cons.mp tidy
      cases met : joining.meets first item with
      | true =>
          rw [insert?_cons_of_meets met, Option.map_eq_some_iff] at inserted
          obtain ⟨joined, combined, rfl⟩ := inserted
          refine tidy_cons.mpr ⟨lawful.closed firstValid valid combined, ?_, restTidy⟩
          intro other member
          rw [← (lawful.meets_combined combined other).1]
          exact firstApart other member
      | false =>
          rw [insert?_cons_of_not_meets met, Option.map_eq_some_iff] at inserted
          obtain ⟨rest', insertedRest, rfl⟩ := inserted
          refine tidy_cons.mpr ⟨firstValid, ?_, inductionHypothesis restTidy insertedRest⟩
          intro other member
          rcases lawful.origin_of_mem_insert? insertedRest member with
            rfl | ⟨former, formerMember, sameMeets, _⟩
          · exact met
          · rw [lawful.meets_comm, sameMeets, lawful.meets_comm]
            exact firstApart former formerMember

theorem insertAll?_tidy
    (lawful : joining.Lawful)
    {items incoming extended : List Item}
    (tidy : joining.Tidy items)
    (valid : ∀ item ∈ incoming, joining.Valid item)
    (inserted : joining.insertAll? items incoming = some extended) :
    joining.Tidy extended := by
  induction incoming generalizing items with
  | nil =>
      cases inserted
      exact tidy
  | cons item rest inductionHypothesis =>
      rw [insertAll?, Option.bind_eq_some_iff] at inserted
      obtain ⟨between, insertedFirst, insertedRest⟩ := inserted
      exact inductionHypothesis
        (lawful.insert?_tidy tidy (valid item (List.mem_cons_self ..)) insertedFirst)
        (fun other member => valid other (List.mem_cons_of_mem _ member)) insertedRest

end Lawful

end Joining

end BindingStubs
