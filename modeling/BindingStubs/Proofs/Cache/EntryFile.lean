import BindingStubs.Cache.Basic
import BindingStubs.Proofs.Extraction.Fragment
import BindingStubs.Proofs.FileTree

namespace BindingStubs

/-!
# Entry files

Every key has a file of its own below the directory of the cache.  An entry whose fragment was
extracted is read from its file just as it was written, with the tables of its model.
-/

/-! ## The names of entry files -/

namespace FilePath

/-- A name that is joined to a base is the last one of the path, and the ones before it depend
on the base alone. -/
theorem exists_splitOn_join
    (base : String) :
    ∃ parts,
      ∀ name : String,
        '/' ∉ name.toList → (join base name).toList.splitOn '/' = parts ++ [name.toList] := by
  have isRelative :
      ∀ name : String, '/' ∉ name.toList → isAbsolute name = false := by
    intro name noSeparator
    by_contra isAbsolute
    rw [Bool.not_eq_false, FilePath.isAbsolute, beq_iff_eq] at isAbsolute
    exact noSeparator (List.mem_of_mem_head? isAbsolute)
  by_cases isEmpty : base = ""
  · subst isEmpty
    refine ⟨[], fun name noSeparator => ?_⟩
    simp [join, isRelative name noSeparator, List.splitOn_eq_singleton noSeparator]
  · by_cases endsInSeparator : base.toList.getLast? = some '/'
    · obtain ⟨lead, isLead⟩ := List.getLast?_eq_some_iff.mp endsInSeparator
      refine ⟨lead.splitOn '/', fun name noSeparator => ?_⟩
      simp [join, isRelative name noSeparator, isLead, List.splitOn_append_cons_self,
        List.splitOn_eq_singleton noSeparator]
    · refine ⟨base.toList.splitOn '/', fun name noSeparator => ?_⟩
      simp [join, isRelative name noSeparator, isEmpty, endsInSeparator,
        List.splitOn_append_cons_self, List.splitOn_eq_singleton noSeparator]

end FilePath

namespace Text

theorem separator_not_mem_toDigits
    (value : Nat) :
    '/' ∉ Nat.toDigits 16 value := by
  induction value using Nat.strong_induction_on with
  | _ value inductionHypothesis =>
      rw [Nat.toDigits_eq_if (by decide)]
      split
      · simp
      · have higher := inductionHypothesis (value / 16) (by omega)
        simpa using higher

end Text

namespace CacheKey

/-- The name of an entry is one name of a path. -/
theorem separator_not_mem_name
    (key : CacheKey) :
    '/' ∉ key.name.toList := by
  simp [name, Xxh64.text, Text.hexPadded, Text.separator_not_mem_toDigits]

end CacheKey

/-- A last name of some length leads down. -/
theorem FileTree.eq_append_of_walk
    {tree : FileTree}
    {place names : List String}
    {name : List Char}
    (isLong : 2 < name.length)
    (walked : tree.walk place [name] = .ok names) :
    names = place ++ [String.ofList name] := by
  rw [walk] at walked
  split at walked
  · rw [if_neg, if_neg] at walked
    · cases walked
      rfl
    · intro isParent
      simp [eq_of_beq isParent] at isLong
    · intro isHere
      rcases Bool.or_eq_true_iff.mp isHere with isEmpty | isDot
      · simp [List.isEmpty_iff.mp isEmpty] at isLong
      · simp [eq_of_beq isDot] at isLong
  · cases walked
  · cases walked

namespace FragmentCache

/-- The files of all entries stand in one place, each under the name of its entry. -/
theorem exists_place_of_locate
    (cache : FragmentCache) :
    ∃ parts,
      ∀ (files : FileTree) (key : CacheKey) (names : List String),
        files.locate (cache.entryPath key.name) = .ok names →
          ∃ place, files.walk [] parts = .ok place ∧ names = place ++ [key.name ++ ".json"] := by
  obtain ⟨parts, splits⟩ := FilePath.exists_splitOn_join cache.directory
  refine ⟨parts, fun files key names located => ?_⟩
  have noSeparator : '/' ∉ (key.name ++ ".json").toList := by
    simp [key.separator_not_mem_name]
  have isLong : 2 < (key.name ++ ".json").toList.length := by
    have hasEnding : 5 ≤ (key.name ++ ".json").toList.length := by simp
    omega
  unfold FileTree.locate at located
  split at located
  · cases located
  · rw [entryPath, splits _ noSeparator, FileTree.walk_append] at located
    cases walked : files.walk [] parts with
    | error error =>
        rw [walked] at located
        cases located
    | ok place =>
        rw [walked] at located
        have isBelow := FileTree.eq_append_of_walk isLong located
        rw [String.ofList_toList] at isBelow
        exact ⟨place, rfl, isBelow⟩

/-- The entries of two keys stand in the same file only if they have the same name. -/
theorem name_eq_of_locate_eq
    {cache : FragmentCache}
    {files : FileTree}
    {first second : CacheKey}
    {names : List String}
    (locatedFirst : files.locate (cache.entryPath first.name) = .ok names)
    (locatedSecond : files.locate (cache.entryPath second.name) = .ok names) :
    first.name = second.name := by
  obtain ⟨parts, leads⟩ := cache.exists_place_of_locate
  obtain ⟨place, walked, isFirst⟩ := leads files first names locatedFirst
  obtain ⟨other, walkedOther, isSecond⟩ := leads files second names locatedSecond
  rw [walked] at walkedOther
  cases walkedOther
  simpa using isFirst.symm.trans isSecond

theorem entryIn?_eq_some_iff
    {files : FileTree}
    {path : String}
    {entry : CacheEntry} :
    entryIn? files path = some entry ↔
      ∃ content, files.read path = .ok content ∧ CacheEntry.ofText? content = some entry := by
  unfold entryIn?
  cases files.read path with
  | error error => simp
  | ok content => simp

/-- An entry that is found after a write is in the text that was written, in the same file, or
was found before. -/
theorem entryIn?_of_write
    {files after : FileTree}
    {path other content : String}
    {now : Nat}
    {entry : CacheEntry}
    (written : files.write path content now = .ok after)
    (found : entryIn? after other = some entry) :
    entryIn? files other = some entry ∨
      CacheEntry.ofText? content = some entry ∧
        ∃ names, files.locate path = .ok names ∧ files.locate other = .ok names := by
  obtain ⟨text, isRead, isEntry⟩ := entryIn?_eq_some_iff.mp found
  rcases FileTree.read_of_write written isRead with wasRead | ⟨rfl, isSamePlace⟩
  · exact .inl (entryIn?_eq_some_iff.mpr ⟨text, wasRead, isEntry⟩)
  · exact .inr ⟨isEntry, isSamePlace⟩

theorem entryIn?_of_remove
    {files after : FileTree}
    {path other : String}
    {entry : CacheEntry}
    (removed : files.remove path = .ok after)
    (found : entryIn? after other = some entry) :
    entryIn? files other = some entry := by
  obtain ⟨text, isRead, isEntry⟩ := entryIn?_eq_some_iff.mp found
  exact entryIn?_eq_some_iff.mpr ⟨text, FileTree.read_of_remove removed isRead, isEntry⟩

end FragmentCache

namespace FragmentCache

/-- An entry that can be written is. -/
theorem writeEntry_of_write
    {cache : FragmentCache}
    {files after : FileTree}
    {now : Nat}
    {name : String}
    {entry : CacheEntry}
    (written : files.write (cache.entryPath name) entry.text now = .ok after) :
    cache.writeEntry files now name entry = after := by
  rw [writeEntry, written]
  rfl

end FragmentCache

/-! ## The contents of entry files -/

namespace CacheEntry

open Interchange

/-- A fragment is read with the model that is read for its own. -/
theorem readsAs_fragment
    (fragment : Fragment) :
    ReadsAs encodeFragment decodeFragment fragment
      { fragment with model := fragment.model.asRead } := by
  intro read decoded
  rw [decodeFragment, encodeFragment] at decoded
  have decoded := of_record decoded rfl (by decide)
  have decoded := (readsAs_model fragment.model).required decoded rfl
  have decoded := (readsAs_strings fragment.dependencies).required decoded rfl
  cases decoded
  rfl

/-- An entry is read from its text as it was, if the tables of its model are those that reading
builds. -/
theorem eq_of_ofText?_text
    {entry read : CacheEntry}
    (isIndexed : entry.fragment.model.asRead.reindex = entry.fragment.model)
    (isRead : ofText? entry.text = some read) :
    read = entry := by
  have plain : Json.Plain entry.encode := by simp [encode, encodeFragment]
  simp only [ofText?, text, Json.parse?_compact plain, Option.bind_eq_bind, Option.bind_some,
    Option.bind_eq_some_iff] at isRead
  obtain ⟨stored, decoded, isRead⟩ := isRead
  rw [decode, encode] at decoded
  have decoded := of_record decoded rfl (by decide)
  have decoded := (readsAs_string entry.toolVersion).required decoded rfl
  have decoded := (readsAs_string entry.source).required decoded rfl
  have decoded := (readsAs_below (Width.limit 64) entry.parsedAt).required decoded rfl
  have decoded := (readsAs_fragment entry.fragment).required decoded rfl
  cases decoded
  cases isRead
  simp only [isIndexed]

end CacheEntry

end BindingStubs
