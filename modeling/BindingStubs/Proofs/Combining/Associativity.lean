import BindingStubs.Proofs.Combining.Basic

namespace BindingStubs.Joining.Lawful

/-!
# Taking in lists is associative

Two items that meet may be combined before they are taken in.  Two that do not meet may be
taken in the other way round as long as the second one finds an item that it meets, since
then it is not appended.  Together these move an item from behind a list into the list.
-/

variable {Item : Type} {joining : Joining Item}

/-- Items that do not meet the same items contradict each other. -/
theorem combine?_eq_none_of_meets_ne
    (lawful : joining.Lawful)
    {first second other : Item}
    (differ : joining.meets first other ≠ joining.meets second other) :
    joining.combine? first second = none := by
  rw [Option.eq_none_iff_forall_ne_some]
  intro joined combined
  obtain ⟨asFirst, asSecond⟩ := lawful.meets_combined combined other
  exact differ (asFirst.trans asSecond.symm)

/-- A combination meets an item if and only if its first part does. -/
theorem meets_of_combined
    (lawful : joining.Lawful)
    {first second joined : Item}
    (combined : joining.combine? first second = some joined)
    (other : Item) :
    joining.meets other joined = joining.meets other first := by
  rw [lawful.meets_comm, ← (lawful.meets_combined combined other).1, lawful.meets_comm]

/-! ## Two items before a head -/

/-- Two items that meet each other both combine with a head that the first of them meets. -/
theorem insert?_insert?_cons_of_meets
    (lawful : joining.Lawful)
    {head first second : Item}
    (metHead : joining.meets head first = true)
    (met : joining.meets first second = true)
    (rest : List Item) :
    (joining.insert? first (head :: rest)).bind (joining.insert? second) =
      ((joining.combine? head first).bind (joining.combine? · second)).map (· :: rest) := by
  rw [insert?_cons_of_meets metHead]
  cases combined : joining.combine? head first with
  | none => rfl
  | some joined =>
      have metJoined : joining.meets joined second = true := by
        rw [← (lawful.meets_combined combined second).2, met]
      exact insert?_cons_of_meets metJoined rest

theorem insert?_insert?_cons_of_not_meets
    {head first second : Item}
    (unmetFirst : joining.meets head first = false)
    (unmetSecond : joining.meets head second = false)
    (rest : List Item) :
    (joining.insert? first (head :: rest)).bind (joining.insert? second) =
      ((joining.insert? first rest).bind (joining.insert? second)).map (head :: ·) := by
  rw [insert?_cons_of_not_meets unmetFirst]
  cases joining.insert? first rest with
  | none => rfl
  | some extended => exact insert?_cons_of_not_meets unmetSecond extended

/-- The first of two items combines with the head, the second passes over it. -/
theorem insert?_insert?_cons_of_meets_first
    (lawful : joining.Lawful)
    {head first second : Item}
    (metFirst : joining.meets head first = true)
    (unmetSecond : joining.meets head second = false)
    (rest : List Item) :
    (joining.insert? first (head :: rest)).bind (joining.insert? second) =
      (joining.combine? head first).bind fun joined =>
        (joining.insert? second rest).map (joined :: ·) := by
  rw [insert?_cons_of_meets metFirst]
  cases combined : joining.combine? head first with
  | none => rfl
  | some joined =>
      have unmetJoined : joining.meets joined second = false := by
        rw [← (lawful.meets_combined combined second).1, unmetSecond]
      exact insert?_cons_of_not_meets unmetJoined rest

/-- The first of two items passes over the head, the second combines with it. -/
theorem insert?_insert?_cons_of_meets_second
    {head first second : Item}
    (unmetFirst : joining.meets head first = false)
    (metSecond : joining.meets head second = true)
    (rest : List Item) :
    (joining.insert? first (head :: rest)).bind (joining.insert? second) =
      (joining.insert? first rest).bind fun extended =>
        (joining.combine? head second).map (· :: extended) := by
  rw [insert?_cons_of_not_meets unmetFirst]
  cases joining.insert? first rest with
  | none => rfl
  | some extended => exact insert?_cons_of_meets metSecond extended

/-! ## A combination before a head -/

theorem combine?_insert?_cons_of_meets
    (lawful : joining.Lawful)
    {head first : Item}
    (met : joining.meets head first = true)
    (second : Item)
    (rest : List Item) :
    (joining.combine? first second).bind (joining.insert? · (head :: rest)) =
      ((joining.combine? first second).bind (joining.combine? head)).map (· :: rest) := by
  cases combined : joining.combine? first second with
  | none => rfl
  | some joined =>
      exact insert?_cons_of_meets ((lawful.meets_of_combined combined head).trans met) rest

theorem combine?_insert?_cons_of_not_meets
    (lawful : joining.Lawful)
    {head first : Item}
    (unmet : joining.meets head first = false)
    (second : Item)
    (rest : List Item) :
    (joining.combine? first second).bind (joining.insert? · (head :: rest)) =
      ((joining.combine? first second).bind (joining.insert? · rest)).map (head :: ·) := by
  cases combined : joining.combine? first second with
  | none => rfl
  | some joined =>
      exact insert?_cons_of_not_meets ((lawful.meets_of_combined combined head).trans unmet) rest

/-! ## Two items before a list -/

/-- Taking in two items that meet is taking in their combination. -/
theorem insert?_insert?_of_meets
    (lawful : joining.Lawful)
    {first second : Item}
    {items : List Item}
    (valid : ∀ item ∈ items, joining.Valid item)
    (firstValid : joining.Valid first)
    (secondValid : joining.Valid second)
    (met : joining.meets first second = true) :
    (joining.insert? first items).bind (joining.insert? second) =
      (joining.combine? first second).bind (joining.insert? · items) := by
  induction items with
  | nil =>
      rw [insert?_nil, Option.bind_some, insert?_cons_of_meets met]
      cases joining.combine? first second <;> rfl
  | cons head rest inductionHypothesis =>
      obtain ⟨headValid, restValid⟩ := List.forall_mem_cons.mp valid
      cases metFirst : joining.meets head first with
      | true =>
          rw [lawful.insert?_insert?_cons_of_meets metFirst met,
            lawful.combine?_insert?_cons_of_meets metFirst,
            lawful.assoc headValid firstValid secondValid]
      | false =>
          cases metSecond : joining.meets head second with
          | true =>
              -- Items that combine meet the same items, so neither side can succeed.
              have firstDiffers :
                  joining.meets first head ≠ joining.meets second head := by
                simp [lawful.meets_comm _ head, metFirst, metSecond]
              have headDiffers :
                  joining.meets head first ≠ joining.meets second first := by
                simp [lawful.meets_comm second first, metFirst, met]
              rw [insert?_insert?_cons_of_meets_second metFirst metSecond,
                lawful.combine?_eq_none_of_meets_ne headDiffers,
                lawful.combine?_eq_none_of_meets_ne firstDiffers]
              cases joining.insert? first rest <;> rfl
          | false =>
              rw [insert?_insert?_cons_of_not_meets metFirst metSecond,
                inductionHypothesis restValid,
                lawful.combine?_insert?_cons_of_not_meets metFirst]

/-- Items apart from each other may change places when the head meets one of them. -/
theorem insert?_swap_of_meets_head
    (lawful : joining.Lawful)
    {head first second : Item}
    (unmet : joining.meets first second = false)
    (met : joining.meets head first = true ∨ joining.meets head second = true)
    (rest : List Item) :
    (joining.insert? first (head :: rest)).bind (joining.insert? second) =
      (joining.insert? second (head :: rest)).bind (joining.insert? first) := by
  have unmet' : joining.meets second first = false :=
    (lawful.meets_comm second first).trans unmet
  cases metFirst : joining.meets head first with
  | true =>
      cases metSecond : joining.meets head second with
      | true =>
          have firstAlone : joining.combine? head first = none :=
            lawful.combine?_eq_none_of_meets_ne (by rw [metSecond, unmet]; simp)
          have secondAlone : joining.combine? head second = none :=
            lawful.combine?_eq_none_of_meets_ne (by rw [metFirst, unmet']; simp)
          rw [insert?_cons_of_meets metFirst, insert?_cons_of_meets metSecond, firstAlone,
            secondAlone]
          rfl
      | false =>
          rw [lawful.insert?_insert?_cons_of_meets_first metFirst metSecond,
            insert?_insert?_cons_of_meets_second metSecond metFirst]
          cases joining.combine? head first <;> cases joining.insert? second rest <;> rfl
  | false =>
      have metSecond : joining.meets head second = true := by
        simpa [metFirst] using met
      rw [insert?_insert?_cons_of_meets_second metFirst metSecond,
        lawful.insert?_insert?_cons_of_meets_first metSecond metFirst]
      cases joining.combine? head second <;> cases joining.insert? first rest <;> rfl

/-- Items apart from each other may change places when the second one is not appended. -/
theorem insert?_swap_of_settled
    (lawful : joining.Lawful)
    {first second : Item}
    {items : List Item}
    (unmet : joining.meets first second = false)
    (settled : ∃ item ∈ items, joining.meets item second = true) :
    (joining.insert? first items).bind (joining.insert? second) =
      (joining.insert? second items).bind (joining.insert? first) := by
  induction items with
  | nil => simp at settled
  | cons head rest inductionHypothesis =>
      by_cases met : joining.meets head first = true ∨ joining.meets head second = true
      · exact lawful.insert?_swap_of_meets_head unmet met rest
      · simp only [not_or, Bool.not_eq_true] at met
        have settledRest : ∃ item ∈ rest, joining.meets item second = true := by
          obtain ⟨item, member, meetsSecond⟩ := settled
          rcases List.mem_cons.mp member with rfl | inRest
          · simp [met.2] at meetsSecond
          · exact ⟨item, inRest, meetsSecond⟩
        rw [insert?_insert?_cons_of_not_meets met.1 met.2,
          insert?_insert?_cons_of_not_meets met.2 met.1, inductionHypothesis settledRest]

/-- An item that finds an item it meets still does after others were taken in. -/
theorem settled_insert?
    (lawful : joining.Lawful)
    {first second : Item}
    {items extended : List Item}
    (settled : ∃ item ∈ items, joining.meets item second = true)
    (inserted : joining.insert? first items = some extended) :
    ∃ item ∈ extended, joining.meets item second = true := by
  induction items generalizing extended with
  | nil => simp at settled
  | cons head rest inductionHypothesis =>
      obtain ⟨item, member, met⟩ := settled
      cases metFirst : joining.meets head first with
      | true =>
          rw [insert?_cons_of_meets metFirst, Option.map_eq_some_iff] at inserted
          obtain ⟨joined, combined, rfl⟩ := inserted
          rcases List.mem_cons.mp member with rfl | inRest
          · refine ⟨joined, List.mem_cons_self .., ?_⟩
            rw [← (lawful.meets_combined combined second).1, met]
          · exact ⟨item, List.mem_cons_of_mem _ inRest, met⟩
      | false =>
          rw [insert?_cons_of_not_meets metFirst, Option.map_eq_some_iff] at inserted
          obtain ⟨extendedRest, insertedRest, rfl⟩ := inserted
          rcases List.mem_cons.mp member with rfl | inRest
          · exact ⟨item, List.mem_cons_self .., met⟩
          · obtain ⟨found, foundMember, foundMet⟩ :=
              inductionHypothesis ⟨item, inRest, met⟩ insertedRest
            exact ⟨found, List.mem_cons_of_mem _ foundMember, foundMet⟩

/-- An item that is not appended may be taken in before items that it does not meet. -/
theorem insertAll?_insert?_of_settled
    (lawful : joining.Lawful)
    {item : Item}
    {items incoming : List Item}
    (unmet : ∀ other ∈ incoming, joining.meets other item = false)
    (settled : ∃ other ∈ items, joining.meets other item = true) :
    (joining.insertAll? items incoming).bind (joining.insert? item) =
      (joining.insert? item items).bind (joining.insertAll? · incoming) := by
  induction incoming generalizing items with
  | nil => simp [insertAll?]
  | cons first rest inductionHypothesis =>
      have swapped :=
        lawful.insert?_swap_of_settled (unmet first (List.mem_cons_self ..)) settled
      calc
        (joining.insertAll? items (first :: rest)).bind (joining.insert? item) =
            (joining.insert? first items).bind fun extended =>
              (joining.insertAll? extended rest).bind (joining.insert? item) := by
          rw [insertAll?, Option.bind_assoc]
        _ = (joining.insert? first items).bind fun extended =>
              (joining.insert? item extended).bind (joining.insertAll? · rest) := by
          cases inserted : joining.insert? first items with
          | none => rfl
          | some extended =>
              exact inductionHypothesis
                (fun other member => unmet other (List.mem_cons_of_mem _ member))
                (lawful.settled_insert? settled inserted)
        _ = ((joining.insert? first items).bind (joining.insert? item)).bind
              (joining.insertAll? · rest) := by
          rw [Option.bind_assoc]
        _ = (joining.insert? item items).bind (joining.insertAll? · (first :: rest)) := by
          rw [swapped, Option.bind_assoc]
          rfl

/-- An item cannot be taken in when a tidy list holds one that it contradicts. -/
theorem insert?_eq_none_of_blocked
    (lawful : joining.Lawful)
    {item blocking : Item}
    {items : List Item}
    (tidy : joining.Tidy items)
    (member : blocking ∈ items)
    (met : joining.meets blocking item = true)
    (contradicts : joining.combine? blocking item = none) :
    joining.insert? item items = none := by
  induction items with
  | nil => simp at member
  | cons head rest inductionHypothesis =>
      obtain ⟨_, headApart, restTidy⟩ := tidy_cons.mp tidy
      cases metHead : joining.meets head item with
      | true =>
          rw [insert?_cons_of_meets metHead, Option.map_eq_none_iff]
          rcases List.mem_cons.mp member with rfl | inRest
          · exact contradicts
          · have differ :
                joining.meets head blocking ≠ joining.meets item blocking := by
              rw [headApart blocking inRest, lawful.meets_comm item, met]
              simp
            exact lawful.combine?_eq_none_of_meets_ne differ
      | false =>
          rcases List.mem_cons.mp member with rfl | inRest
          · simp [metHead] at met
          · rw [insert?_cons_of_not_meets metHead, inductionHypothesis restTidy inRest]
            rfl

/-- An item stays in the list when one that it does not meet is taken in. -/
theorem mem_insert?_of_not_meets
    {first kept : Item}
    {items extended : List Item}
    (unmet : joining.meets kept first = false)
    (member : kept ∈ items)
    (inserted : joining.insert? first items = some extended) :
    kept ∈ extended := by
  induction items generalizing extended with
  | nil => simp at member
  | cons head rest inductionHypothesis =>
      cases met : joining.meets head first with
      | true =>
          rw [insert?_cons_of_meets met, Option.map_eq_some_iff] at inserted
          obtain ⟨joined, _, rfl⟩ := inserted
          rcases List.mem_cons.mp member with rfl | inRest
          · simp [met] at unmet
          · exact List.mem_cons_of_mem _ inRest
      | false =>
          rw [insert?_cons_of_not_meets met, Option.map_eq_some_iff] at inserted
          obtain ⟨extendedRest, insertedRest, rfl⟩ := inserted
          rcases List.mem_cons.mp member with rfl | inRest
          · exact List.mem_cons_self ..
          · exact List.mem_cons_of_mem _ (inductionHypothesis inRest insertedRest)

/-- A contradiction with an item in a tidy list remains when other items are taken in. -/
theorem insertAll?_insert?_eq_none_of_blocked
    (lawful : joining.Lawful)
    {item blocking : Item}
    {items incoming : List Item}
    (tidy : joining.Tidy items)
    (valid : ∀ other ∈ incoming, joining.Valid other)
    (member : blocking ∈ items)
    (met : joining.meets blocking item = true)
    (contradicts : joining.combine? blocking item = none)
    (unmet : ∀ other ∈ incoming, joining.meets blocking other = false) :
    (joining.insertAll? items incoming).bind (joining.insert? item) = none := by
  induction incoming generalizing items with
  | nil => exact lawful.insert?_eq_none_of_blocked tidy member met contradicts
  | cons first rest inductionHypothesis =>
      rw [insertAll?, Option.bind_assoc]
      cases inserted : joining.insert? first items with
      | none => rfl
      | some extended =>
          have stays : blocking ∈ extended :=
            mem_insert?_of_not_meets (unmet first (List.mem_cons_self ..)) member inserted
          exact inductionHypothesis
            (lawful.insert?_tidy tidy (valid first (List.mem_cons_self ..)) inserted)
            (fun other inRest => valid other (List.mem_cons_of_mem _ inRest)) stays
            (fun other inRest => unmet other (List.mem_cons_of_mem _ inRest))

/-! ## One more item behind a list -/

section OneMore

variable {item first : Item} {items rest : List Item}

/-- An item cannot be taken in behind a list whose first item it contradicts. -/
theorem insertAll?_cons_insert?_of_contradicts
    (lawful : joining.Lawful)
    (itemsTidy : joining.Tidy items)
    (incomingTidy : joining.Tidy (first :: rest))
    (valid : joining.Valid item)
    (met : joining.meets first item = true)
    (contradicts : joining.combine? first item = none) :
    (joining.insertAll? items (first :: rest)).bind (joining.insert? item) = none := by
  obtain ⟨firstValid, firstApart, restTidy⟩ := tidy_cons.mp incomingTidy
  rw [insertAll?, Option.bind_assoc]
  cases inserted : joining.insert? first items with
  | none => rfl
  | some extended =>
      -- What became of the first item still contradicts the other one.
      obtain ⟨found, member, sameMeets, origin⟩ := lawful.exists_mem_of_insert? inserted
      have foundContradicts : joining.combine? found item = none := by
        rcases origin with rfl | ⟨former, formerMember, joined⟩
        · exact contradicts
        · have assoc := lawful.assoc (itemsTidy.valid former formerMember) firstValid valid
          simpa [joined, contradicts] using assoc
      exact lawful.insertAll?_insert?_eq_none_of_blocked
        (lawful.insert?_tidy itemsTidy firstValid inserted) restTidy.valid
        member ((sameMeets item).trans met) foundContradicts
        (fun other inRest => (sameMeets other).trans (firstApart other inRest))

/-- An item that combines with the first item of a list may be combined with it beforehand. -/
theorem insertAll?_cons_insert?_of_combines
    (lawful : joining.Lawful)
    {joined : Item}
    (itemsTidy : joining.Tidy items)
    (incomingTidy : joining.Tidy (first :: rest))
    (valid : joining.Valid item)
    (met : joining.meets first item = true)
    (combined : joining.combine? first item = some joined) :
    (joining.insertAll? items (first :: rest)).bind (joining.insert? item) =
      joining.insertAll? items (joined :: rest) := by
  obtain ⟨firstValid, firstApart, _⟩ := tidy_cons.mp incomingTidy
  have unmet : ∀ other ∈ rest, joining.meets other item = false := by
    intro other inRest
    obtain ⟨asFirst, asItem⟩ := lawful.meets_combined combined other
    rw [lawful.meets_comm, asItem, ← asFirst]
    exact firstApart other inRest
  have together := lawful.insert?_insert?_of_meets itemsTidy.valid firstValid valid met
  rw [combined, Option.bind_some] at together
  rw [insertAll?, insertAll?, ← together, Option.bind_assoc, Option.bind_assoc]
  cases inserted : joining.insert? first items with
  | none => rfl
  | some extended =>
      obtain ⟨found, member, sameMeets, _⟩ := lawful.exists_mem_of_insert? inserted
      exact lawful.insertAll?_insert?_of_settled unmet
        ⟨found, member, (sameMeets item).trans met⟩

end OneMore

/-- Taking in one more item may be done after a list or within the list. -/
theorem insertAll?_insert?
    (lawful : joining.Lawful)
    {item : Item}
    {items incoming : List Item}
    (itemsTidy : joining.Tidy items)
    (incomingTidy : joining.Tidy incoming)
    (valid : joining.Valid item) :
    (joining.insertAll? items incoming).bind (joining.insert? item) =
      (joining.insert? item incoming).bind (joining.insertAll? items) := by
  induction incoming generalizing items with
  | nil => simp [insertAll?, insert?_nil]
  | cons first rest inductionHypothesis =>
      cases met : joining.meets first item with
      | true =>
          rw [insert?_cons_of_meets met]
          cases combined : joining.combine? first item with
          | none =>
              exact lawful.insertAll?_cons_insert?_of_contradicts itemsTidy incomingTidy valid met
                combined
          | some joined =>
              exact lawful.insertAll?_cons_insert?_of_combines itemsTidy incomingTidy valid met
                combined
      | false =>
          obtain ⟨firstValid, _, restTidy⟩ := tidy_cons.mp incomingTidy
          rw [insertAll?, Option.bind_assoc, insert?_cons_of_not_meets met]
          calc
            ((joining.insert? first items).bind fun extended =>
                (joining.insertAll? extended rest).bind (joining.insert? item)) =
              (joining.insert? first items).bind fun extended =>
                (joining.insert? item rest).bind (joining.insertAll? extended) := by
              cases inserted : joining.insert? first items with
              | none => rfl
              | some extended =>
                  exact inductionHypothesis
                    (lawful.insert?_tidy itemsTidy firstValid inserted) restTidy
            _ = ((joining.insert? item rest).map (first :: ·)).bind
                  (joining.insertAll? items) := by
              cases joining.insert? item rest <;> cases inserted :
                joining.insert? first items <;> simp [insertAll?, inserted]

theorem insertAll?_assoc
    (lawful : joining.Lawful)
    {first second third : List Item}
    (firstTidy : joining.Tidy first)
    (secondTidy : joining.Tidy second)
    (thirdValid : ∀ item ∈ third, joining.Valid item) :
    (joining.insertAll? first second).bind (joining.insertAll? · third) =
      (joining.insertAll? second third).bind (joining.insertAll? first) := by
  induction third generalizing second with
  | nil => simp [insertAll?]
  | cons item rest inductionHypothesis =>
      have itemValid := thirdValid item (List.mem_cons_self ..)
      calc
        (joining.insertAll? first second).bind (joining.insertAll? · (item :: rest)) =
            ((joining.insertAll? first second).bind (joining.insert? item)).bind
              (joining.insertAll? · rest) := by
          rw [Option.bind_assoc]
          rfl
        _ = (joining.insert? item second).bind fun extended =>
              (joining.insertAll? first extended).bind (joining.insertAll? · rest) := by
          rw [lawful.insertAll?_insert? firstTidy secondTidy itemValid, Option.bind_assoc]
        _ = (joining.insert? item second).bind fun extended =>
              (joining.insertAll? extended rest).bind (joining.insertAll? first) := by
          cases inserted : joining.insert? item second with
          | none => rfl
          | some extended =>
              exact inductionHypothesis
                (lawful.insert?_tidy secondTidy itemValid inserted)
                (fun other member => thirdValid other (List.mem_cons_of_mem _ member))
        _ = (joining.insertAll? second (item :: rest)).bind (joining.insertAll? first) := by
          rw [insertAll?, Option.bind_assoc]

/-- Items may be collected in the empty list before they are taken in. -/
theorem insertAll?_collected
    (lawful : joining.Lawful)
    {items incoming collected : List Item}
    (tidy : joining.Tidy items)
    (valid : ∀ item ∈ incoming, joining.Valid item)
    (success : joining.insertAll? [] incoming = some collected) :
    joining.insertAll? items incoming = joining.insertAll? items collected := by
  have assoc := lawful.insertAll?_assoc tidy joining.tidy_nil valid
  rwa [success, insertAll?_nil, Option.bind_some, Option.bind_some] at assoc

end BindingStubs.Joining.Lawful
