import BindingStubs.Dump.Reader
import BindingStubs.Proofs.Model.Interchange

namespace BindingStubs

/-!
# Reading dumps of any depth

The depth up to which a dump is read is that of the whole value.  More depth would not change what
is read, so the bound never shows.
-/

namespace Json

/-! ## The depth of parts -/

theorem depth_le_depthOfItems
    {item : Json}
    {items : List Json}
    (member : item ∈ items) :
    item.depth ≤ depthOfItems items := by
  induction items with
  | nil => cases member
  | cons first rest inductionHypothesis =>
      rw [depthOfItems]
      cases member with
      | head => exact Nat.le_max_left _ _
      | tail _ member => exact Nat.le_trans (inductionHypothesis member) (Nat.le_max_right _ _)

theorem depth_le_depthOfFields
    {field : String × Json}
    {fields : List (String × Json)}
    (member : field ∈ fields) :
    field.2.depth ≤ depthOfFields fields := by
  induction fields with
  | nil => cases member
  | cons first rest inductionHypothesis =>
      obtain ⟨_, value⟩ := first
      rw [depthOfFields]
      cases member with
      | head => exact Nat.le_max_left _ _
      | tail _ member => exact Nat.le_trans (inductionHypothesis member) (Nat.le_max_right _ _)

/-- The values in a record nest less deep than the record. -/
theorem depth_lt_of_record?
    {names : List String}
    {value : Json}
    {record : Record}
    (isRecord : record? names value = some record)
    {name : String}
    {part : Json}
    (found : record.fields.lookup name = some part) :
    part.depth < value.depth := by
  obtain ⟨before, after, isSplit, _⟩ := List.lookup_eq_some_iff.mp found
  have member : (name, part) ∈ record.fields := by simp [isSplit]
  cases value with
  | object fields =>
      simp only [record?] at isRecord
      split at isRecord <;> cases isRecord
      rw [depth]
      exact Nat.lt_succ_of_le (depth_le_depthOfFields (List.mem_filter.mp member).1)
  | array items =>
      simp only [record?] at isRecord
      split at isRecord <;> cases isRecord
      rw [depth]
      exact Nat.lt_succ_of_le (depth_le_depthOfItems (List.of_mem_zip member).2)
  | _ => cases isRecord

/-! ## Records of objects -/

theorem nodup_of_namesOnce
    {fields : List (String × Json)}
    (once : namesOnce fields = true) :
    (fields.map Prod.fst).Nodup := by
  induction fields with
  | nil => exact List.nodup_nil
  | cons field rest inductionHypothesis =>
      simp only [namesOnce, Bool.and_eq_true, Bool.not_eq_true', List.any_eq_false,
        beq_iff_eq] at once
      rw [List.map_cons, List.nodup_cons]
      refine ⟨fun isRepeated => ?_, inductionHypothesis once.2⟩
      obtain ⟨other, member, same⟩ := List.mem_map.mp isRepeated
      exact once.1 other member same

/-- A record with further fields that it asks for and that are not there yet. -/
theorem record?_append
    {names : List String}
    {fields further : List (String × Json)}
    {record : Record}
    (isRecord : record? names (.object fields) = some record)
    (isKnown : ∀ field ∈ further, field.1 ∈ names)
    (once : (further.map Prod.fst).Nodup)
    (isNew : ∀ field ∈ fields, field.1 ∉ further.map Prod.fst) :
    record? names (.object (fields ++ further)) =
      some { fields := record.fields ++ further, isPositional := false } := by
  simp only [record?] at isRecord
  split at isRecord <;> cases isRecord
  rename_i onceBefore
  have allKnown : further.filter (fun field => names.contains field.1) = further :=
    List.filter_eq_self.mpr (by simpa using isKnown)
  have filtered :
      (fields ++ further).filter (fun field => names.contains field.1) =
        (fields.filter fun field => names.contains field.1) ++ further := by
    rw [List.filter_append, allKnown]
  have apart :
      (((fields.filter fun field => names.contains field.1) ++ further).map Prod.fst).Nodup := by
    rw [List.map_append, List.nodup_append]
    refine ⟨nodup_of_namesOnce onceBefore, once, fun name member other isFurther same => ?_⟩
    obtain ⟨field, isField, rfl⟩ := List.mem_map.mp member
    exact isNew field (List.mem_filter.mp isField).1 (same ▸ isFurther)
  rw [record?, filtered]
  exact if_pos (namesOnce_of_nodup apart)

/-- Fields that are not asked for are passed over. -/
theorem record?_append_of_unread
    {names : List String}
    {remarks known : List (String × Json)}
    (unread : ∀ field ∈ remarks, field.1 ∉ names)
    (isKnown : ∀ field ∈ known, field.1 ∈ names)
    (once : (known.map Prod.fst).Nodup) :
    record? names (.object (remarks ++ known)) =
      some { fields := known, isPositional := false } := by
  have nothing : remarks.filter (fun field => names.contains field.1) = [] :=
    List.filter_eq_nil_iff.mpr (by simpa using unread)
  have isRecord :
      record? names (.object remarks) = some { fields := [], isPositional := false } := by
    rw [record?, nothing]
    rfl
  refine record?_append isRecord isKnown once fun field member isKnownName => ?_
  obtain ⟨other, isOther, same⟩ := List.mem_map.mp isKnownName
  exact unread field member (same ▸ isKnown other isOther)

/-- A field that holds an object is not null. -/
theorem optional_eq_some
    {α : Type}
    {record : Record}
    {name : String}
    {decode : Json → Option α}
    {fields : List (String × Json)}
    {value : α}
    (found : record.fields.lookup name = some (.object fields))
    (isRead : decode (.object fields) = some value) :
    record.optional name decode = some (some value) := by
  rw [Record.optional, found]
  exact congrArg (Option.map some) isRead

/-! ## Reading with more depth -/

section Congruence

variable
  {α : Type}
  {record : Record}
  {name : String}
  {decode decodeAlso : Json → Option α}

theorem optional_congr
    (same : ∀ part, record.fields.lookup name = some part → decode part = decodeAlso part) :
    record.optional name decode = record.optional name decodeAlso := by
  rw [Record.optional, Record.optional]
  cases found : record.fields.lookup name with
  | none => rfl
  | some part => cases part <;> simp [Record.nullable, same _ found]

theorem defaulted_congr
    {fallback : α}
    (same : ∀ part, record.fields.lookup name = some part → decode part = decodeAlso part) :
    record.defaulted name fallback decode = record.defaulted name fallback decodeAlso := by
  rw [Record.defaulted, Record.defaulted]
  cases found : record.fields.lookup name with
  | none => rfl
  | some part => exact same part found

theorem list?_congr
    {value : Json}
    (same : ∀ item, item.depth < value.depth → decode item = decodeAlso item) :
    list? decode value = list? decodeAlso value := by
  cases value with
  | array items =>
      have sameItem (item : Json) (member : item ∈ items) : decode item = decodeAlso item := by
        refine same item ?_
        rw [depth]
        exact Nat.lt_succ_of_le (depth_le_depthOfItems member)
      clear same
      rw [list?, list?]
      induction items with
      | nil => rfl
      | cons first rest inductionHypothesis =>
          rw [List.forall_mem_cons] at sameItem
          rw [List.mapM_cons, List.mapM_cons, sameItem.1, inductionHypothesis sameItem.2]
  | _ => rfl

end Congruence

end Json

namespace DumpReader

open Json

theorem readLocationWithin?_succ
    {depth : Nat}
    {value : Json}
    (enough : value.depth ≤ depth) :
    readLocationWithin? (depth + 1) value = readLocationWithin? depth value := by
  induction depth generalizing value with
  | zero => cases value <;> simp [Json.depth] at enough
  | succ depth inductionHypothesis =>
      rw [readLocationWithin?, readLocationWithin?]
      refine Option.bind_congr fun record isRecord => ?_
      have same (name : String) :
          record.optional name (readLocationWithin? (depth + 1)) =
            record.optional name (readLocationWithin? depth) :=
        optional_congr fun part found => inductionHypothesis
          (Nat.le_of_lt_succ (Nat.lt_of_lt_of_le (depth_lt_of_record? isRecord found) enough))
      rw [same "spellingLoc", same "expansionLoc"]

theorem readRangeWithin?_succ
    {depth : Nat}
    {value : Json}
    (enough : value.depth ≤ depth + 1) :
    readRangeWithin? (depth + 1) value = readRangeWithin? depth value := by
  rw [readRangeWithin?, readRangeWithin?]
  refine Option.bind_congr fun record isRecord => ?_
  have same (name : String) :
      record.defaulted name {} (readLocationWithin? (depth + 1)) =
        record.defaulted name {} (readLocationWithin? depth) :=
    defaulted_congr fun part found => readLocationWithin?_succ
      (Nat.le_of_lt_succ (Nat.lt_of_lt_of_le (depth_lt_of_record? isRecord found) enough))
  rw [same "begin", same "end"]

theorem readNodeWithin?_succ
    {depth : Nat}
    {value : Json}
    (enough : value.depth ≤ depth) :
    readNodeWithin? (depth + 1) value = readNodeWithin? depth value := by
  induction depth generalizing value with
  | zero => cases value <;> simp [Json.depth] at enough
  | succ depth inductionHypothesis =>
      rw [readNodeWithin?, readNodeWithin?]
      refine Option.bind_congr fun record isRecord => ?_
      have isInside {name : String} {part : Json}
          (found : record.fields.lookup name = some part) :
          part.depth ≤ depth :=
        Nat.le_of_lt_succ (Nat.lt_of_lt_of_le (depth_lt_of_record? isRecord found) enough)
      have sameLocation :
          record.defaulted "loc" {} (readLocationWithin? (depth + 1)) =
            record.defaulted "loc" {} (readLocationWithin? depth) :=
        defaulted_congr fun _ found => readLocationWithin?_succ (isInside found)
      have sameRange :
          record.defaulted "range" ({}, {}) (readRangeWithin? (depth + 1)) =
            record.defaulted "range" ({}, {}) (readRangeWithin? depth) :=
        defaulted_congr fun _ found => readRangeWithin?_succ (Nat.le_succ_of_le (isInside found))
      have sameInner :
          record.defaulted "inner" [] (list? (readNodeWithin? (depth + 1))) =
            record.defaulted "inner" [] (list? (readNodeWithin? depth)) :=
        defaulted_congr fun part found => list?_congr fun item isItem =>
          inductionHypothesis (Nat.le_of_lt (Nat.lt_of_lt_of_le isItem (isInside found)))
      have sameReferenced :
          record.optional "referencedDecl" (readNodeWithin? (depth + 1)) =
            record.optional "referencedDecl" (readNodeWithin? depth) :=
        optional_congr fun _ found => inductionHypothesis (isInside found)
      rw [sameLocation, sameRange, sameInner, sameReferenced]

/-- However deep a dump may be read, the same is read once its own depth is allowed. -/
theorem readNodeWithin?_eq_ofJson?
    {depth : Nat}
    {value : Json}
    (enough : value.depth ≤ depth) :
    readNodeWithin? depth value = DumpNode.ofJson? value := by
  induction enough with
  | refl => rfl
  | step enough inductionHypothesis => rw [readNodeWithin?_succ enough, inductionHypothesis]

end DumpReader

end BindingStubs
