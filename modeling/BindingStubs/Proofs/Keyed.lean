import BindingStubs.Keyed
import Mathlib.Data.List.Basic
import Mathlib.Data.List.Induction

namespace BindingStubs.Keyed

/-!
# Lookups in keyed lists

Each operation on keyed lists is described by what it does to lookups.  Proofs about
bindings and renamings use these descriptions and never look at the entries.
-/

variable {α β : Type}

@[simp] theorem get?_empty
    (key : String) :
    (empty : Keyed α).get? key = none :=
  rfl

@[simp] theorem get?_mk_nil
    (key : String) :
    (⟨[]⟩ : Keyed α).get? key = none :=
  rfl

/-- A lookup meets the first entry or goes on behind it. -/
theorem get?_mk_cons
    (entry : String × α)
    (rest : List (String × α))
    (key : String) :
    (⟨entry :: rest⟩ : Keyed α).get? key =
      if key = entry.1 then some entry.2
      else (⟨rest⟩ : Keyed α).get? key := by
  rcases entry with ⟨first, value⟩
  by_cases same : key = first
  · simp [get?, same]
  · have differs : (key == first) = false := by simpa using same
    simp [get?, List.lookup_cons, same, differs]

theorem get?_mk_append
    (first second : List (String × α))
    (key : String) :
    (⟨first ++ second⟩ : Keyed α).get? key =
      ((⟨first⟩ : Keyed α).get? key).or ((⟨second⟩ : Keyed α).get? key) := by
  induction first with
  | nil => simp
  | cons entry rest inductionHypothesis =>
      rw [List.cons_append, get?_mk_cons, get?_mk_cons, inductionHypothesis]
      split <;> simp

theorem mem_of_get?_eq_some
    {keyed : Keyed α}
    {key : String}
    {value : α}
    (found : keyed.get? key = some value) :
    (key, value) ∈ keyed.entries := by
  obtain ⟨entries⟩ := keyed
  induction entries with
  | nil => simp at found
  | cons entry rest inductionHypothesis =>
      rw [get?_mk_cons] at found
      split at found
      · rename_i same
        cases found
        exact List.mem_cons.mpr (.inl (by rw [same]))
      · exact List.mem_cons_of_mem _ (inductionHypothesis found)

/-- With distinct keys, every entry is found under its key. -/
theorem get?_eq_some_of_mem
    {keyed : Keyed α}
    {key : String}
    {value : α}
    (distinct : keyed.keys.Nodup)
    (member : (key, value) ∈ keyed.entries) :
    keyed.get? key = some value := by
  obtain ⟨entries⟩ := keyed
  induction entries with
  | nil => simp at member
  | cons entry rest inductionHypothesis =>
      simp only [keys, List.map_cons, List.nodup_cons] at distinct
      rw [get?_mk_cons]
      rcases List.mem_cons.mp member with atEntry | inRest
      · rw [← atEntry, if_pos rfl]
      · have notFirst : key ≠ entry.1 := by
          rintro rfl
          exact distinct.1 (List.mem_map.mpr ⟨_, inRest, rfl⟩)
        rw [if_neg notFirst]
        exact inductionHypothesis distinct.2 inRest

/-- Inserting changes the lookup of the inserted key only. -/
theorem get?_insert
    (keyed : Keyed α)
    (key : String)
    (value : α)
    (other : String) :
    (keyed.insert key value).get? other =
      if other = key then some value else keyed.get? other := by
  obtain ⟨entries⟩ := keyed
  simp only [insert]
  induction entries with
  | nil => simp [insertEntry, get?_mk_cons]
  | cons entry rest inductionHypothesis =>
      rw [insertEntry]
      by_cases same : key = entry.1
      · simp only [same, beq_self_eq_true, ↓reduceIte, get?_mk_cons]
        split <;> rfl
      · have differs : (key == entry.1) = false := by simpa using same
        rw [differs, if_neg Bool.false_ne_true, get?_mk_cons, inductionHypothesis,
          get?_mk_cons]
        by_cases atEntry : other = entry.1
        · have notKey : other ≠ key := fun equal => same (equal.symm.trans atEntry)
          rw [if_pos atEntry, if_neg notKey, if_pos atEntry]
        · rw [if_neg atEntry, if_neg atEntry]

/-- What stands in a keyed list after an insertion stood there before or was inserted. -/
theorem mem_entries_insert
    {keyed : Keyed α}
    {key : String}
    {value : α}
    {entry : String × α}
    (member : entry ∈ (keyed.insert key value).entries) :
    entry ∈ keyed.entries ∨ entry = (key, value) := by
  obtain ⟨entries⟩ := keyed
  simp only [insert] at member ⊢
  induction entries with
  | nil => exact .inr (List.mem_singleton.mp member)
  | cons first rest inductionHypothesis =>
      rw [insertEntry] at member
      split at member
      · rename_i same
        rcases List.mem_cons.mp member with rfl | inRest
        · exact .inr (by rw [beq_iff_eq.mp same])
        · exact .inl (List.mem_cons_of_mem _ inRest)
      · rcases List.mem_cons.mp member with rfl | inRest
        · exact .inl (List.mem_cons_self ..)
        · exact (inductionHypothesis inRest).imp_left (List.mem_cons_of_mem _)

theorem get?_eq_find?
    (keyed : Keyed α)
    (key : String) :
    keyed.get? key = (keyed.entries.find? fun entry => entry.1 == key).map Prod.snd := by
  obtain ⟨entries⟩ := keyed
  induction entries with
  | nil => rfl
  | cons entry rest inductionHypothesis =>
      rw [get?_mk_cons, inductionHypothesis]
      by_cases same : key = entry.1
      · simp [same]
      · simp [same, Ne.symm same]

/-- Inserting the value that is already there changes nothing. -/
theorem insert_of_get?_eq_some
    {keyed : Keyed α}
    {key : String}
    {value : α}
    (found : keyed.get? key = some value) :
    keyed.insert key value = keyed := by
  obtain ⟨entries⟩ := keyed
  rw [insert]
  congr
  induction entries with
  | nil => simp at found
  | cons entry rest inductionHypothesis =>
      rw [get?_mk_cons] at found
      rw [insertEntry]
      split at found
      · rename_i same
        simp [same, ← Option.some.inj found]
      · rename_i differs
        simp [differs, inductionHypothesis found]

@[simp] theorem get?_map
    (transform : α → β)
    (keyed : Keyed α)
    (key : String) :
    (keyed.map transform).get? key = (keyed.get? key).map transform := by
  obtain ⟨entries⟩ := keyed
  simp only [map]
  induction entries with
  | nil => rfl
  | cons entry rest inductionHypothesis =>
      rw [List.map_cons, get?_mk_cons, get?_mk_cons, inductionHypothesis]
      split <;> rfl

/-- Inserting entries from the left prefers later entries to earlier ones. -/
theorem get?_foldl_insert
    (entries : List (String × α))
    (keyed : Keyed α)
    (key : String) :
    (entries.foldl (fun current entry => current.insert entry.1 entry.2) keyed).get? key =
      ((ofList entries).get? key).or (keyed.get? key) := by
  induction entries generalizing keyed with
  | nil => simp [ofList]
  | cons entry rest inductionHypothesis =>
      have started :=
        inductionHypothesis (empty.insert entry.1 entry.2)
      rw [get?_insert, get?_empty] at started
      rw [List.foldl_cons, inductionHypothesis, get?_insert]
      change _ =
        ((rest.foldl (fun current entry => current.insert entry.1 entry.2)
          (empty.insert entry.1 entry.2)).get? key).or _
      rw [started, Option.or_assoc]
      split <;> simp

/-- A value found in a built keyed list was one of its entries. -/
theorem mem_of_get?_ofList
    {entries : List (String × α)}
    {key : String}
    {value : α}
    (found : (ofList entries).get? key = some value) :
    (key, value) ∈ entries := by
  induction entries with
  | nil => simp [ofList] at found
  | cons entry rest inductionHypothesis =>
      rw [ofList, List.foldl_cons, get?_foldl_insert, Option.or_eq_some_iff] at found
      rcases found with inRest | ⟨_, atEntry⟩
      · exact List.mem_cons_of_mem _ (inductionHypothesis inRest)
      · rw [get?_insert, get?_empty] at atEntry
        split at atEntry
        · rename_i same
          cases atEntry
          exact List.mem_cons.mpr (.inl (by rw [same]))
        · simp at atEntry

/-- Every key of the entries is found in the keyed list built from them. -/
theorem isSome_get?_ofList
    {entries : List (String × α)}
    {key : String}
    (member : key ∈ entries.map Prod.fst) :
    ((ofList entries).get? key).isSome := by
  induction entries with
  | nil => simp at member
  | cons entry rest inductionHypothesis =>
      rw [ofList, List.foldl_cons, get?_foldl_insert, Option.isSome_or, get?_insert]
      rcases List.mem_cons.mp member with atEntry | inRest
      · simp [atEntry]
      · simp [inductionHypothesis inRest]

theorem insertEntry_of_not_mem
    {key : String}
    {entries : List (String × α)}
    (absent : key ∉ entries.map Prod.fst)
    (value : α) :
    insertEntry key value entries = entries ++ [(key, value)] := by
  induction entries with
  | nil => rfl
  | cons entry rest inductionHypothesis =>
      simp only [List.map_cons, List.mem_cons, not_or] at absent
      simp [insertEntry, absent.1, inductionHypothesis absent.2]

theorem mem_keys_insertEntry
    {key other : String}
    {value : α}
    {entries : List (String × α)} :
    other ∈ (insertEntry key value entries).map Prod.fst ↔
      other = key ∨ other ∈ entries.map Prod.fst := by
  induction entries with
  | nil => simp [insertEntry]
  | cons entry rest inductionHypothesis =>
      rw [insertEntry]
      split
      · rename_i same
        simp [← beq_iff_eq.mp same]
      · simp only [List.map_cons, List.mem_cons, inductionHypothesis]
        exact or_left_comm

/-- Inserting keeps keys distinct. -/
theorem nodup_keys_insert
    {keyed : Keyed α}
    (distinct : keyed.keys.Nodup)
    (key : String)
    (value : α) :
    (keyed.insert key value).keys.Nodup := by
  obtain ⟨entries⟩ := keyed
  simp only [insert, keys] at distinct ⊢
  induction entries with
  | nil => simp [insertEntry]
  | cons entry rest inductionHypothesis =>
      simp only [List.map_cons, List.nodup_cons] at distinct
      rw [insertEntry]
      split
      · simpa using distinct
      · rename_i differs
        have apart : entry.1 ≠ key := fun same => differs (beq_iff_eq.mpr same.symm)
        simp only [List.map_cons, List.nodup_cons, mem_keys_insertEntry, not_or]
        exact ⟨⟨apart, distinct.1⟩, inductionHypothesis distinct.2⟩

theorem nodup_keys_ofList
    (entries : List (String × α)) :
    (ofList entries).keys.Nodup := by
  rw [ofList]
  induction entries using List.reverseRecOn with
  | nil => simp [keys, empty]
  | append_singleton entries entry inductionHypothesis =>
      rw [List.foldl_append, List.foldl_cons, List.foldl_nil]
      exact nodup_keys_insert inductionHypothesis entry.1 entry.2

end BindingStubs.Keyed
