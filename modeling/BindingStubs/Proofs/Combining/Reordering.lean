import BindingStubs.Proofs.Combining.Associativity
import Mathlib.Data.List.Perm.Basic

namespace BindingStubs

/-!
# Taking in lists is commutative up to order

The order in which items are taken in decides where they stand and, among items that are
alike, which one is kept.  It decides nothing else: whether items can be taken in at all is
the same for every order.
-/

section Outcomes

variable {α β γ δ : Type} {r : α → α → Prop}

theorem rel_trans
    {first second third : Option α}
    (transitive : ∀ {a b c}, r a b → r b c → r a c)
    (firstSecond : Option.Rel r first second)
    (secondThird : Option.Rel r second third) :
    Option.Rel r first third := by
  cases firstSecond with
  | none =>
      cases secondThird with
      | none => exact .none
  | some related =>
      cases secondThird with
      | some related' => exact .some (transitive related related')

theorem rel_of_eq
    {first second : Option α}
    (reflexive : ∀ a, r a a)
    (same : first = second) :
    Option.Rel r first second := by
  subst same
  cases first with
  | none => exact .none
  | some value => exact .some (reflexive value)

theorem rel_map
    {related : α → β → Prop}
    {related' : γ → δ → Prop}
    {first : Option α}
    {second : Option β}
    {f : α → γ}
    {g : β → δ}
    (outcomes : Option.Rel related first second)
    (step : ∀ {a b}, related a b → related' (f a) (g b)) :
    Option.Rel related' (first.map f) (second.map g) := by
  cases outcomes with
  | none => exact .none
  | some both => exact .some (step both)

/-- Steps that keep a relation between the values reached keep it between outcomes. -/
theorem rel_bind
    {related : α → β → Prop}
    {related' : γ → δ → Prop}
    {first : Option α}
    {second : Option β}
    {f : α → Option γ}
    {g : β → Option δ}
    (outcomes : Option.Rel related first second)
    (step :
      ∀ {a b},
        first = some a →
        second = some b →
        related a b →
        Option.Rel related' (f a) (g b)) :
    Option.Rel related' (first.bind f) (second.bind g) := by
  cases outcomes with
  | none => exact .none
  | some both => exact step rfl rfl both

theorem isSome_eq_of_rel
    {related : α → β → Prop}
    {first : Option α}
    {second : Option β}
    (outcomes : Option.Rel related first second) :
    first.isSome = second.isSome := by
  cases outcomes with
  | none => rfl
  | some _ => rfl

/-- Related outcomes are equal in whatever the relation keeps. -/
theorem map_eq_of_rel
    {related : α → β → Prop}
    {first : Option α}
    {second : Option β}
    {f : α → γ}
    {g : β → γ}
    (outcomes : Option.Rel related first second)
    (step : ∀ {a b}, related a b → f a = g b) :
    first.map f = second.map g := by
  cases outcomes with
  | none => rfl
  | some both => exact congrArg some (step both)

end Outcomes

/-- Lists whose items are pairwise alike after a change of order. -/
inductive Reordered
    {Item : Type}
    (alike : Item → Item → Prop) :
    List Item → List Item → Prop where
  | nil :
      Reordered alike [] []
  | cons
      {first second : Item}
      {rest rest' : List Item} :
      alike first second →
      Reordered alike rest rest' →
      Reordered alike (first :: rest) (second :: rest')
  | swap
      (first second : Item)
      (rest : List Item) :
      Reordered alike (first :: second :: rest) (second :: first :: rest)
  | trans
      {first second third : List Item} :
      Reordered alike first second →
      Reordered alike second third →
      Reordered alike first third

namespace Reordered

variable {Item : Type} {alike : Item → Item → Prop}

theorem refl
    (reflexive : ∀ item, alike item item)
    (items : List Item) :
    Reordered alike items items := by
  induction items with
  | nil => exact .nil
  | cons first rest inductionHypothesis =>
      exact .cons (reflexive first) inductionHypothesis

theorem symm
    (symmetric : ∀ {first second}, alike first second → alike second first)
    {first second : List Item}
    (reordered : Reordered alike first second) :
    Reordered alike second first := by
  induction reordered with
  | nil => exact .nil
  | cons head _ inductionHypothesis =>
      exact .cons (symmetric head) inductionHypothesis
  | swap first second rest => exact .swap second first rest
  | trans _ _ firstHypothesis secondHypothesis =>
      exact .trans secondHypothesis firstHypothesis

/-- Reordering is an equivalence when alikeness is. -/
theorem equivalence
    (equivalence : Equivalence alike) :
    Equivalence (Reordered alike) :=
  ⟨refl equivalence.refl, symm equivalence.symm, trans⟩

theorem of_perm
    (reflexive : ∀ item, alike item item)
    {first second : List Item}
    (perm : first.Perm second) :
    Reordered alike first second := by
  induction perm with
  | nil => exact .nil
  | cons item _ inductionHypothesis => exact .cons (reflexive item) inductionHypothesis
  | swap first second rest => exact .swap second first rest
  | trans _ _ firstHypothesis secondHypothesis =>
      exact .trans firstHypothesis secondHypothesis

/-- Every item has an item alike in the reordered list. -/
theorem exists_alike
    (equivalence : Equivalence alike)
    {first second : List Item}
    (reordered : Reordered alike first second)
    {item : Item}
    (member : item ∈ first) :
    ∃ other ∈ second, alike item other := by
  induction reordered generalizing item with
  | nil => simp at member
  | cons head _ inductionHypothesis =>
      rcases List.mem_cons.mp member with rfl | inRest
      · exact ⟨_, List.mem_cons_self .., head⟩
      · obtain ⟨other, otherMember, same⟩ := inductionHypothesis inRest
        exact ⟨other, List.mem_cons_of_mem _ otherMember, same⟩
  | swap first second rest =>
      refine ⟨item, ?_, equivalence.refl item⟩
      simp only [List.mem_cons] at member ⊢
      tauto
  | trans _ _ firstHypothesis secondHypothesis =>
      obtain ⟨between, betweenMember, firstAlike⟩ := firstHypothesis member
      obtain ⟨other, otherMember, secondAlike⟩ := secondHypothesis betweenMember
      exact ⟨other, otherMember, equivalence.trans firstAlike secondAlike⟩

/-- What items alike contribute up to order is contributed up to order by the lists. -/
theorem perm_flatMap
    {Contribution : Type}
    {contribution : Item → List Contribution}
    (respects : ∀ {first second}, alike first second →
      (contribution first).Perm (contribution second))
    {first second : List Item}
    (reordered : Reordered alike first second) :
    (first.flatMap contribution).Perm (second.flatMap contribution) := by
  induction reordered with
  | nil => exact .refl _
  | cons head _ inductionHypothesis => exact (respects head).append inductionHypothesis
  | swap first second rest =>
      simp only [List.flatMap_cons, ← List.append_assoc]
      exact List.perm_append_comm.append_right _
  | trans _ _ firstHypothesis secondHypothesis =>
      exact firstHypothesis.trans secondHypothesis

/-- What items alike have in common is permuted. -/
theorem perm_map
    {Aspect : Type}
    {aspect : Item → Aspect}
    (respects : ∀ {first second}, alike first second → aspect first = aspect second)
    {first second : List Item}
    (reordered : Reordered alike first second) :
    (first.map aspect).Perm (second.map aspect) := by
  rw [List.map_eq_flatMap, List.map_eq_flatMap]
  exact reordered.perm_flatMap fun same => .of_eq (by rw [respects same])

end Reordered

namespace Joining.Lawful

variable {Item : Type} {joining : Joining Item}

theorem valid_of_reordered
    (lawful : joining.Lawful)
    {first second : List Item}
    (reordered : Reordered joining.Alike first second)
    (valid : ∀ item ∈ first, joining.Valid item) :
    ∀ item ∈ second, joining.Valid item := by
  intro item member
  obtain ⟨former, formerMember, alike⟩ :=
    (reordered.symm lawful.equivalence.symm).exists_alike lawful.equivalence member
  exact lawful.alike_valid (lawful.equivalence.symm alike) (valid former formerMember)

theorem tidy_of_reordered
    (lawful : joining.Lawful)
    {first second : List Item}
    (reordered : Reordered joining.Alike first second)
    (tidy : joining.Tidy first) :
    joining.Tidy second := by
  induction reordered with
  | nil => exact tidy
  | @cons head head' rest rest' headAlike restReordered inductionHypothesis =>
      obtain ⟨headValid, headApart, restTidy⟩ := tidy_cons.mp tidy
      refine tidy_cons.mpr
        ⟨lawful.alike_valid headAlike headValid, ?_, inductionHypothesis restTidy⟩
      intro other member
      obtain ⟨former, formerMember, formerAlike⟩ :=
        (restReordered.symm lawful.equivalence.symm).exists_alike lawful.equivalence member
      rw [← lawful.meets_alike headAlike, lawful.meets_comm,
        lawful.meets_alike formerAlike, lawful.meets_comm]
      exact headApart former formerMember
  | swap head next rest =>
      obtain ⟨headValid, headApart, nextTidy⟩ := tidy_cons.mp tidy
      obtain ⟨nextValid, nextApart, restTidy⟩ := tidy_cons.mp nextTidy
      refine tidy_cons.mpr ⟨nextValid, ?_, tidy_cons.mpr ⟨headValid, ?_, restTidy⟩⟩
      · intro other member
        rcases List.mem_cons.mp member with rfl | inRest
        · rw [lawful.meets_comm]
          exact headApart next (List.mem_cons_self ..)
        · exact nextApart other inRest
      · exact fun other member => headApart other (List.mem_cons_of_mem _ member)
  | trans _ _ firstHypothesis secondHypothesis =>
      exact secondHypothesis (firstHypothesis tidy)

/-- In reordered tidy lists, a property of at most one item finds items alike. -/
theorem rel_find?
    (lawful : joining.Lawful)
    {wanted : Item → Bool}
    (respects : ∀ {first second}, joining.Alike first second → wanted first = wanted second)
    (unique :
      ∀ {first second},
        wanted first = true →
        wanted second = true →
        joining.meets first second = true)
    {first second : List Item}
    (tidy : joining.Tidy first)
    (reordered : Reordered joining.Alike first second) :
    Option.Rel joining.Alike (first.find? wanted) (second.find? wanted) := by
  induction reordered with
  | nil => exact .none
  | @cons head head' rest rest' headAlike _ inductionHypothesis =>
      rw [List.find?_cons, List.find?_cons, ← respects headAlike]
      cases wanted head with
      | true => exact .some headAlike
      | false => exact inductionHypothesis (tidy_cons.mp tidy).2.2
  | swap head next rest =>
      have apart : joining.meets head next = false :=
        (tidy_cons.mp tidy).2.1 next (List.mem_cons_self ..)
      refine rel_of_eq lawful.equivalence.refl ?_
      simp only [List.find?_cons]
      cases wantedHead : wanted head with
      | false => rfl
      | true =>
          cases wantedNext : wanted next with
          | false => rfl
          | true => exact absurd (unique wantedHead wantedNext) (by simp [apart])
  | trans firstReordered _ firstHypothesis secondHypothesis =>
      exact rel_trans lawful.equivalence.trans (firstHypothesis tidy)
        (secondHypothesis (lawful.tidy_of_reordered firstReordered tidy))

/-- Taking in an item alike gives the same list up to alikeness. -/
theorem insert?_congr_item
    (lawful : joining.Lawful)
    {item item' : Item}
    (valid : joining.Valid item)
    (alike : joining.Alike item item')
    {items : List Item}
    (itemsValid : ∀ other ∈ items, joining.Valid other) :
    Option.Rel (Reordered joining.Alike)
      (joining.insert? item items) (joining.insert? item' items) := by
  induction items with
  | nil => exact .some (.cons alike .nil)
  | cons head rest inductionHypothesis =>
      have sameMeets : joining.meets head item' = joining.meets head item := by
        rw [lawful.meets_comm, ← lawful.meets_alike alike, lawful.meets_comm]
      cases met : joining.meets head item with
      | true =>
          rw [insert?_cons_of_meets met, insert?_cons_of_meets (sameMeets.trans met)]
          refine rel_map
            (lawful.congr (itemsValid head (List.mem_cons_self ..)) valid
              (lawful.equivalence.refl head) alike) ?_
          exact fun joined => .cons joined (.refl lawful.equivalence.refl rest)
      | false =>
          rw [insert?_cons_of_not_meets met,
            insert?_cons_of_not_meets (sameMeets.trans met)]
          refine rel_map
            (inductionHypothesis fun other member =>
              itemsValid other (List.mem_cons_of_mem _ member)) ?_
          exact fun extended => .cons (lawful.equivalence.refl head) extended

/-- Neighbours that do not meet may change places before an item is taken in. -/
theorem insert?_congr_neighbours
    (lawful : joining.Lawful)
    {head next : Item}
    (apart : joining.meets head next = false)
    (item : Item)
    (rest : List Item) :
    Option.Rel (Reordered joining.Alike)
      (joining.insert? item (head :: next :: rest))
      (joining.insert? item (next :: head :: rest)) := by
  have swapped :
      ∀ first second : Item, ∀ extended : List Item,
        Reordered joining.Alike
          (first :: second :: extended) (second :: first :: extended) :=
    fun first second extended => .swap first second extended
  cases metHead : joining.meets head item with
  | true =>
      cases metNext : joining.meets next item with
      | true =>
          have headAlone : joining.combine? head item = none :=
            lawful.combine?_eq_none_of_meets_ne
              (by rw [apart, lawful.meets_comm item, metNext]; simp)
          have nextAlone : joining.combine? next item = none :=
            lawful.combine?_eq_none_of_meets_ne
              (by
                rw [lawful.meets_comm next, apart, lawful.meets_comm item, metHead]
                simp)
          rw [insert?_cons_of_meets metHead, insert?_cons_of_meets metNext, headAlone,
            nextAlone]
          exact .none
      | false =>
          rw [insert?_cons_of_meets metHead, insert?_cons_of_not_meets metNext,
            insert?_cons_of_meets metHead, Option.map_map]
          cases joining.combine? head item with
          | none => exact .none
          | some joined => exact .some (swapped joined next rest)
  | false =>
      rw [insert?_cons_of_not_meets metHead]
      cases metNext : joining.meets next item with
      | true =>
          rw [insert?_cons_of_meets metNext, insert?_cons_of_meets metNext,
            Option.map_map]
          cases joining.combine? next item with
          | none => exact .none
          | some joined => exact .some (swapped head joined rest)
      | false =>
          rw [insert?_cons_of_not_meets metNext, insert?_cons_of_not_meets metNext,
            insert?_cons_of_not_meets metHead, Option.map_map, Option.map_map]
          cases joining.insert? item rest with
          | none => exact .none
          | some extended => exact .some (swapped head next extended)

theorem insert?_congr_list
    (lawful : joining.Lawful)
    {item : Item}
    (valid : joining.Valid item)
    {items items' : List Item}
    (tidy : joining.Tidy items)
    (reordered : Reordered joining.Alike items items') :
    Option.Rel (Reordered joining.Alike)
      (joining.insert? item items) (joining.insert? item items') := by
  induction reordered with
  | nil => exact .some (.refl lawful.equivalence.refl [item])
  | @cons head head' rest rest' headAlike restReordered inductionHypothesis =>
      obtain ⟨headValid, _, restTidy⟩ := tidy_cons.mp tidy
      have sameMeets : joining.meets head' item = joining.meets head item :=
        (lawful.meets_alike headAlike item).symm
      cases met : joining.meets head item with
      | true =>
          rw [insert?_cons_of_meets met, insert?_cons_of_meets (sameMeets.trans met)]
          refine rel_map
            (lawful.congr headValid valid headAlike (lawful.equivalence.refl item)) ?_
          exact fun joined => .cons joined restReordered
      | false =>
          rw [insert?_cons_of_not_meets met,
            insert?_cons_of_not_meets (sameMeets.trans met)]
          refine rel_map (inductionHypothesis restTidy) ?_
          exact fun extended => .cons headAlike extended
  | swap head next rest =>
      have apart : joining.meets head next = false :=
        (tidy_cons.mp tidy).2.1 next (List.mem_cons_self ..)
      exact lawful.insert?_congr_neighbours apart item rest
  | trans firstReordered _ firstHypothesis secondHypothesis =>
      exact rel_trans Reordered.trans (firstHypothesis tidy)
        (secondHypothesis (lawful.tidy_of_reordered firstReordered tidy))

/-- Two items may be taken in in either order. -/
theorem insert?_comm
    (lawful : joining.Lawful)
    {first second : Item}
    (firstValid : joining.Valid first)
    (secondValid : joining.Valid second)
    {items : List Item}
    (valid : ∀ item ∈ items, joining.Valid item) :
    Option.Rel (Reordered joining.Alike)
      ((joining.insert? first items).bind (joining.insert? second))
      ((joining.insert? second items).bind (joining.insert? first)) := by
  cases met : joining.meets first second with
  | true =>
      rw [lawful.insert?_insert?_of_meets valid firstValid secondValid met,
        lawful.insert?_insert?_of_meets valid secondValid firstValid
          ((lawful.meets_comm second first).trans met)]
      refine rel_bind (lawful.comm firstValid secondValid) ?_
      intro joined joined' combined _ alike
      exact lawful.insert?_congr_item
        (lawful.closed firstValid secondValid combined) alike valid
  | false =>
      induction items with
      | nil =>
          have unmet : joining.meets second first = false :=
            (lawful.meets_comm second first).trans met
          simp only [insert?_nil, Option.bind_some, insert?_cons_of_not_meets met,
            insert?_cons_of_not_meets unmet, Option.map_some]
          exact .some (.swap first second [])
      | cons head rest inductionHypothesis =>
          by_cases metHead :
              joining.meets head first = true ∨ joining.meets head second = true
          · exact rel_of_eq (.refl lawful.equivalence.refl)
              (lawful.insert?_swap_of_meets_head met metHead rest)
          · simp only [not_or, Bool.not_eq_true] at metHead
            rw [insert?_insert?_cons_of_not_meets metHead.1 metHead.2,
              insert?_insert?_cons_of_not_meets metHead.2 metHead.1]
            refine rel_map
              (inductionHypothesis fun item member =>
                valid item (List.mem_cons_of_mem _ member)) ?_
            exact fun extended => .cons (lawful.equivalence.refl head) extended

theorem insertAll?_congr_list
    (lawful : joining.Lawful)
    {items items' incoming : List Item}
    (tidy : joining.Tidy items)
    (valid : ∀ item ∈ incoming, joining.Valid item)
    (reordered : Reordered joining.Alike items items') :
    Option.Rel (Reordered joining.Alike)
      (joining.insertAll? items incoming) (joining.insertAll? items' incoming) := by
  induction incoming generalizing items items' with
  | nil => exact .some reordered
  | cons item rest inductionHypothesis =>
      have itemValid := valid item (List.mem_cons_self ..)
      refine rel_bind (lawful.insert?_congr_list itemValid tidy reordered) ?_
      intro extended extended' inserted _ extendedReordered
      exact inductionHypothesis (lawful.insert?_tidy tidy itemValid inserted)
        (fun other member => valid other (List.mem_cons_of_mem _ member))
        extendedReordered

theorem insertAll?_congr_incoming
    (lawful : joining.Lawful)
    {items incoming incoming' : List Item}
    (tidy : joining.Tidy items)
    (valid : ∀ item ∈ incoming, joining.Valid item)
    (reordered : Reordered joining.Alike incoming incoming') :
    Option.Rel (Reordered joining.Alike)
      (joining.insertAll? items incoming) (joining.insertAll? items incoming') := by
  induction reordered generalizing items with
  | nil => exact .some (.refl lawful.equivalence.refl items)
  | @cons first first' rest rest' alike restReordered inductionHypothesis =>
      have firstValid := valid first (List.mem_cons_self ..)
      have restValid : ∀ item ∈ rest, joining.Valid item :=
        fun item member => valid item (List.mem_cons_of_mem _ member)
      have restValid' := lawful.valid_of_reordered restReordered restValid
      refine rel_bind (lawful.insert?_congr_item firstValid alike tidy.valid) ?_
      intro extended extended' inserted _ extendedReordered
      have extendedTidy := lawful.insert?_tidy tidy firstValid inserted
      exact rel_trans Reordered.trans (inductionHypothesis extendedTidy restValid)
        (lawful.insertAll?_congr_list extendedTidy restValid' extendedReordered)
  | swap first second rest =>
      have firstValid := valid first (List.mem_cons_self ..)
      have secondValid := valid second (by simp)
      have restValid : ∀ item ∈ rest, joining.Valid item :=
        fun item member => valid item (by simp [member])
      simp only [insertAll?, ← Option.bind_assoc]
      refine rel_bind (lawful.insert?_comm firstValid secondValid tidy.valid) ?_
      intro extended extended' inserted _ extendedReordered
      obtain ⟨between, insertedFirst, insertedSecond⟩ :=
        Option.bind_eq_some_iff.mp inserted
      have betweenTidy := lawful.insert?_tidy tidy firstValid insertedFirst
      exact lawful.insertAll?_congr_list
        (lawful.insert?_tidy betweenTidy secondValid insertedSecond) restValid
        extendedReordered
  | @trans first second third firstReordered _ firstHypothesis secondHypothesis =>
      exact rel_trans Reordered.trans (firstHypothesis tidy valid)
        (secondHypothesis tidy (lawful.valid_of_reordered firstReordered valid))

end Joining.Lawful

namespace Joining

variable {Item : Type}

/-- Tidy lists, combined by taking one into the other. -/
def listing
    (joining : Joining Item) :
    Combining (List Item) where
  combine? :=
    joining.insertAll?
  Valid :=
    joining.Tidy
  Alike :=
    Reordered joining.Alike

@[simp] theorem listing_combine?
    (joining : Joining Item)
    (items incoming : List Item) :
    joining.listing.combine? items incoming = joining.insertAll? items incoming :=
  rfl

/-- Tidy lists of lawfully joined items are lawfully combined. -/
theorem Lawful.listing
    {joining : Joining Item}
    (lawful : joining.Lawful) :
    joining.listing.Lawful where
  closed firstTidy secondTidy combined :=
    lawful.insertAll?_tidy firstTidy secondTidy.valid combined
  assoc firstTidy secondTidy thirdTidy :=
    lawful.insertAll?_assoc firstTidy secondTidy thirdTidy.valid
  equivalence :=
    Reordered.equivalence lawful.equivalence
  alike_valid reordered tidy :=
    lawful.tidy_of_reordered reordered tidy
  comm := by
    intro first second firstTidy secondTidy
    have asOne :
        ∀ {items incoming : List Item},
          joining.Tidy items →
          joining.insertAll? items incoming = joining.insertAll? [] (items ++ incoming) := by
      intro items incoming tidy
      rw [insertAll?_append, insertAll?_nil_of_tidy tidy, Option.bind_some]
    change Option.Rel _ (joining.insertAll? first second) (joining.insertAll? second first)
    rw [asOne firstTidy, asOne secondTidy]
    refine lawful.insertAll?_congr_incoming joining.tidy_nil ?_
      (.of_perm lawful.equivalence.refl List.perm_append_comm)
    intro item member
    rcases List.mem_append.mp member with inFirst | inSecond
    · exact firstTidy.valid item inFirst
    · exact secondTidy.valid item inSecond
  congr := by
    intro first first' second second' firstTidy secondTidy firstAlike secondAlike
    exact rel_trans Reordered.trans
      (lawful.insertAll?_congr_incoming firstTidy secondTidy.valid secondAlike)
      (lawful.insertAll?_congr_list firstTidy
        (lawful.tidy_of_reordered secondAlike secondTidy).valid firstAlike)

end Joining

end BindingStubs
