import BindingStubs.Cache.Entry
import BindingStubs.Proofs.Text.Trimming

namespace BindingStubs

/-!
# What changes of files leave alone

Writing and removing files makes or drops no directory, so that every path keeps leading to
the same place.  What stands in a tree with a modification time before the changes began stood
there all along.
-/

namespace FileTree

/-- Whether a list of names leads to a directory. -/
def hasDirectory
    (tree : FileTree)
    (place : List String) :
    Bool :=
  (tree.entryAt? place).any FileEntry.isDirectory

theorem hasDirectory_iff
    {tree : FileTree}
    {place : List String} :
    tree.hasDirectory place = true ↔
      ∃ modified, tree.entryAt? place = some (.directory modified) := by
  unfold hasDirectory
  cases tree.entryAt? place with
  | none => simp
  | some entry => cases entry <;> simp [FileEntry.isDirectory]

/-! ## Entries after a change -/

theorem lookup_cons_eq_if
    (place other : List String)
    (entry : FileEntry)
    (rest : List (List String × FileEntry)) :
    ((place, entry) :: rest).lookup other =
      if other = place then some entry else rest.lookup other := by
  by_cases same : other = place
  · simp [same]
  · simp [List.lookup_cons, same, beq_false_of_ne same]

theorem lookup_setEntry
    (names other : List String)
    (entry : FileEntry)
    (entries : List (List String × FileEntry)) :
    (setEntry names entry entries).lookup other =
      if other = names then some entry else entries.lookup other := by
  induction entries with
  | nil => exact lookup_cons_eq_if names other entry []
  | cons first rest inductionHypothesis =>
      obtain ⟨place, standing⟩ := first
      by_cases atPlace : names = place
      · subst atPlace
        rw [setEntry, if_pos (beq_self_eq_true names), lookup_cons_eq_if, lookup_cons_eq_if]
        split <;> rfl
      · rw [setEntry, if_neg (by simpa using atPlace), lookup_cons_eq_if, inductionHypothesis,
          lookup_cons_eq_if]
        have apart : other = place → other ≠ names :=
          fun atOther same => atPlace (same.symm.trans atOther)
        exact ite_ite_comm _ _ _ _ apart

/-- An entry stands where it was put, and all others stand where they stood. -/
theorem entryAt?_set
    {names : List String}
    (isBelow : names ≠ [])
    (tree : FileTree)
    (entry : FileEntry)
    (other : List String) :
    (tree.set names entry).entryAt? other =
      if other = names then some entry else tree.entryAt? other := by
  cases other with
  | nil => simp [entryAt?, Ne.symm isBelow]
  | cons first rest => exact lookup_setEntry names (first :: rest) entry tree.entries

theorem lookup_filter_ne
    (names other : List String)
    (entries : List (List String × FileEntry)) :
    (entries.filter fun entry => names != entry.1).lookup other =
      if other = names then none else entries.lookup other := by
  induction entries with
  | nil => simp
  | cons first rest inductionHypothesis =>
      obtain ⟨place, standing⟩ := first
      by_cases atPlace : names = place
      · subst atPlace
        rw [List.filter_cons_of_neg (by simp), inductionHypothesis, lookup_cons_eq_if]
        split <;> rfl
      · rw [List.filter_cons_of_pos (by simpa using atPlace), lookup_cons_eq_if,
          inductionHypothesis, lookup_cons_eq_if]
        have apart : other = place → other ≠ names :=
          fun atOther same => atPlace (same.symm.trans atOther)
        exact ite_ite_comm _ _ _ _ apart

/-- A dropped entry is absent, and all others stand where they stood. -/
theorem entryAt?_erase
    {names : List String}
    (isBelow : names ≠ [])
    (tree : FileTree)
    (other : List String) :
    (tree.erase names).entryAt? other = if other = names then none else tree.entryAt? other := by
  cases other with
  | nil => simp [entryAt?, Ne.symm isBelow]
  | cons first rest => exact lookup_filter_ne names (first :: rest) tree.entries

/-- The working directory is a directory. -/
theorem ne_nil_of_not_hasDirectory
    {tree : FileTree}
    {names : List String}
    (isNone : tree.hasDirectory names = false) :
    names ≠ [] := by
  rintro rfl
  cases isNone

/-- A file is written where its path leads, and only where there is no directory. -/
theorem exists_of_write
    {tree after : FileTree}
    {path content : String}
    {now : Nat}
    (written : tree.write path content now = .ok after) :
    ∃ names isExecutable,
      tree.locate path = .ok names ∧ tree.hasDirectory names = false ∧
        after = tree.set names (.file content now isExecutable) := by
  unfold write at written
  split at written
  · cases written
  · rename_i names located
    split at written
    · cases written
    · rename_i standing
      cases written
      exact ⟨names, _, located, by simp [hasDirectory, standing, FileEntry.isDirectory], rfl⟩
    · rename_i absent
      cases written
      exact ⟨names, _, located, by simp [hasDirectory, absent], rfl⟩

/-- A file is removed where its path leads. -/
theorem exists_of_remove
    {tree after : FileTree}
    {path : String}
    (removed : tree.remove path = .ok after) :
    ∃ names, tree.hasDirectory names = false ∧ after = tree.erase names := by
  unfold remove at removed
  split at removed
  · cases removed
  · rename_i names _
    split at removed
    · cases removed
    · rename_i standing
      cases removed
      exact ⟨names, by simp [hasDirectory, standing, FileEntry.isDirectory], rfl⟩
    · cases removed

/-! ## Following paths -/

/-- A path that goes on behind another is followed from where the other leads. -/
theorem walk_append
    (tree : FileTree)
    (place : List String)
    (first second : List (List Char)) :
    tree.walk place (first ++ second) =
      (tree.walk place first).bind fun reached => tree.walk reached second := by
  induction first generalizing place with
  | nil => rfl
  | cons name rest inductionHypothesis =>
      rw [List.cons_append, walk, walk]
      split
      · simp only [inductionHypothesis]
        split
        · rfl
        · split <;> rfl
      · rfl
      · rfl

/-- A path that leads somewhere leads there wherever the same directories stand. -/
theorem walk_eq_ok_of_directories
    {before after : FileTree}
    (kept : ∀ place, after.hasDirectory place = true → before.hasDirectory place = true)
    {place names : List String}
    {path : List (List Char)}
    (walked : after.walk place path = .ok names) :
    before.walk place path = .ok names := by
  induction path generalizing place with
  | nil => exact walked
  | cons name rest inductionHypothesis =>
      rw [walk] at walked ⊢
      split at walked
      · rename_i isDirectory
        have standing : before.hasDirectory place = true :=
          kept place (hasDirectory_iff.mpr ⟨_, isDirectory⟩)
        obtain ⟨modified, isDirectory⟩ := hasDirectory_iff.mp standing
        rw [isDirectory]
        dsimp only
        split at walked
        · rename_i stays
          rw [if_pos stays]
          exact inductionHypothesis walked
        · rename_i moves
          rw [if_neg moves]
          split at walked
          · rename_i leadsUp
            rw [if_pos leadsUp]
            exact inductionHypothesis walked
          · rename_i leadsDown
            rw [if_neg leadsDown]
            exact inductionHypothesis walked
      · cases walked
      · cases walked

theorem locate_eq_ok_of_directories
    {before after : FileTree}
    (kept : ∀ place, after.hasDirectory place = true → before.hasDirectory place = true)
    {path : String}
    {names : List String}
    (located : after.locate path = .ok names) :
    before.locate path = .ok names := by
  unfold locate at located ⊢
  split at located
  · cases located
  · rename_i isRelative
    rw [if_neg isRelative]
    exact walk_eq_ok_of_directories kept located

/-- Where a path leads is decided by its names, if it leads anywhere. -/
theorem walk_unique
    {first second : FileTree}
    {place reached reached' : List String}
    {path : List (List Char)}
    (walked : first.walk place path = .ok reached)
    (walked' : second.walk place path = .ok reached') :
    reached = reached' := by
  induction path generalizing place with
  | nil =>
      cases walked
      cases walked'
      rfl
  | cons name rest inductionHypothesis =>
      rw [walk] at walked walked'
      split at walked
      · split at walked'
        · split at walked
          · rename_i stays
            rw [if_pos stays] at walked'
            exact inductionHypothesis walked walked'
          · rename_i moves
            rw [if_neg moves] at walked'
            split at walked
            · rename_i leadsUp
              rw [if_pos leadsUp] at walked'
              exact inductionHypothesis walked walked'
            · rename_i leadsDown
              rw [if_neg leadsDown] at walked'
              exact inductionHypothesis walked walked'
        · cases walked'
        · cases walked'
      · cases walked
      · cases walked

/-- Whether a name on a path leads one level down. -/
def LeadsDown
    (name : List Char) :
    Prop :=
  name ≠ [] ∧ name ≠ ['.'] ∧ name ≠ ['.', '.']

/-- Names that lead down are the last ones of the place that they lead to. -/
theorem walk_leadsDown
    {tree : FileTree}
    {place reached : List String}
    {path : List (List Char)}
    (leadDown : ∀ name ∈ path, LeadsDown name)
    (walked : tree.walk place path = .ok reached) :
    reached = place ++ path.map String.ofList := by
  induction path generalizing place with
  | nil =>
      cases walked
      simp
  | cons name rest inductionHypothesis =>
      obtain ⟨isNamed, noDot, noDots⟩ := leadDown name List.mem_cons_self
      rw [walk] at walked
      split at walked
      · rw [if_neg (by simp [isNamed, noDot]), if_neg (by simpa using noDots)] at walked
        rw [inductionHypothesis (fun other member => leadDown other (List.mem_cons_of_mem _ member))
          walked]
        simp
      · cases walked
      · cases walked

/-- A path whose last names lead down ends in them. -/
theorem exists_place_of_locate_append
    {tree : FileTree}
    {path : String}
    {names : List String}
    {outer inner : List (List Char)}
    (splits : path.toList.splitOn '/' = outer ++ inner)
    (leadDown : ∀ name ∈ inner, LeadsDown name)
    (located : tree.locate path = .ok names) :
    ∃ place, tree.walk [] outer = .ok place ∧ names = place ++ inner.map String.ofList := by
  unfold locate at located
  split at located
  · cases located
  · rw [splits, walk_append] at located
    cases walked : tree.walk [] outer with
    | error error =>
        rw [walked] at located
        cases located
    | ok place =>
        rw [walked] at located
        exact ⟨place, rfl, walk_leadsDown leadDown located⟩

/-- Two paths never lead to the same place, in whichever trees they are followed. -/
def Apart
    (first second : String) :
    Prop :=
  ∀ (tree other : FileTree) (names : List String),
    tree.locate first = .ok names → other.locate second ≠ .ok names

/-- A path leads to an entry if it leads to a place where that entry stands. -/
theorem at?_eq_ok_iff
    {tree : FileTree}
    {path : String}
    {entry : FileEntry} :
    tree.at? path = .ok entry ↔
      ∃ names, tree.locate path = .ok names ∧ tree.entryAt? names = some entry := by
  unfold at?
  cases tree.locate path with
  | error error => simp
  | ok names =>
      cases found : tree.entryAt? names with
      | none => simp [found]
      | some standing => simp [found]

theorem read_eq_ok_iff
    {tree : FileTree}
    {path content : String} :
    tree.read path = .ok content ↔
      ∃ names modified isExecutable,
        tree.locate path = .ok names ∧
          tree.entryAt? names = some (.file content modified isExecutable) := by
  constructor
  · intro isRead
    unfold read at isRead
    split at isRead
    · rename_i modified isExecutable found
      cases isRead
      obtain ⟨names, located, standing⟩ := at?_eq_ok_iff.mp found
      exact ⟨names, modified, isExecutable, located, standing⟩
    · cases isRead
    · cases isRead
  · rintro ⟨names, modified, isExecutable, located, standing⟩
    rw [read, at?_eq_ok_iff.mpr ⟨names, located, standing⟩]

/-! ## Files that no change has reached -/

/-- The trees have the same directories, and what stands in the second with a modification time
before the given one stood in the first. -/
structure UnchangedBefore
    (time : Nat)
    (before after : FileTree) : Prop where
  directories : ∀ place, after.hasDirectory place = before.hasDirectory place
  entries :
    ∀ place entry,
      after.entryAt? place = some entry → entry.modified < time → before.entryAt? place = some entry

namespace UnchangedBefore

variable {time : Nat} {first second third : FileTree}

theorem refl
    (time : Nat)
    (tree : FileTree) :
    UnchangedBefore time tree tree where
  directories _ := rfl
  entries _ _ standing _ := standing

theorem trans
    (earlier : UnchangedBefore time first second)
    (later : UnchangedBefore time second third) :
    UnchangedBefore time first third where
  directories place := (later.directories place).trans (earlier.directories place)
  entries place entry standing isOld :=
    earlier.entries place entry (later.entries place entry standing isOld) isOld

theorem mono
    {sooner : Nat}
    (isSooner : sooner ≤ time)
    (unchanged : UnchangedBefore time first second) :
    UnchangedBefore sooner first second where
  directories := unchanged.directories
  entries place entry standing isOld :=
    unchanged.entries place entry standing (Nat.lt_of_lt_of_le isOld isSooner)

/-- A file that is written has the time of its writing. -/
theorem of_write
    {path content : String}
    {now : Nat}
    (written : first.write path content now = .ok second) :
    UnchangedBefore now first second := by
  obtain ⟨names, isExecutable, _, isNone, rfl⟩ := exists_of_write written
  have isBelow := ne_nil_of_not_hasDirectory isNone
  constructor
  · intro place
    by_cases here : place = names
    · subst here
      rw [isNone]
      simp [hasDirectory, entryAt?_set isBelow, FileEntry.isDirectory]
    · simp [hasDirectory, entryAt?_set isBelow, here]
  · intro place entry standing isOld
    rw [entryAt?_set isBelow] at standing
    split at standing
    · cases standing
      exact absurd isOld (Nat.lt_irrefl now)
    · exact standing

theorem of_remove
    (time : Nat)
    {path : String}
    (removed : first.remove path = .ok second) :
    UnchangedBefore time first second := by
  obtain ⟨names, isNone, rfl⟩ := exists_of_remove removed
  have isBelow := ne_nil_of_not_hasDirectory isNone
  constructor
  · intro place
    by_cases here : place = names
    · subst here
      rw [isNone]
      simp [hasDirectory, entryAt?_erase isBelow]
    · simp [hasDirectory, entryAt?_erase isBelow, here]
  · intro place entry standing _
    rw [entryAt?_erase isBelow] at standing
    split at standing
    · cases standing
    · exact standing

/-- Every path leads where it led. -/
theorem locate_eq_ok_iff
    (unchanged : UnchangedBefore time first second)
    {path : String}
    {names : List String} :
    second.locate path = .ok names ↔ first.locate path = .ok names :=
  ⟨locate_eq_ok_of_directories fun place => (unchanged.directories place).symm.trans,
    locate_eq_ok_of_directories fun place => (unchanged.directories place).trans⟩

/-- A file that was last changed before the time was so from the start, and reads the same. -/
theorem read_eq
    (unchanged : UnchangedBefore time first second)
    {path : String}
    (isOlder : CacheEntry.isOlder second time path = true) :
    second.read path = first.read path ∧ CacheEntry.isOlder first time path = true := by
  cases found : second.at? path with
  | error error => simp [CacheEntry.isOlder, modified?, found] at isOlder
  | ok entry =>
      have isOld : entry.modified < time := by
        simpa [CacheEntry.isOlder, modified?, found] using isOlder
      obtain ⟨names, located, standing⟩ := at?_eq_ok_iff.mp found
      have foundBefore : first.at? path = .ok entry :=
        at?_eq_ok_iff.mpr
          ⟨names, unchanged.locate_eq_ok_iff.mp located,
            unchanged.entries names entry standing isOld⟩
      constructor
      · rw [read, read, found, foundBefore]
      · simpa [CacheEntry.isOlder, modified?, foundBefore] using isOld

end UnchangedBefore

/-- What is read after a write was written, through a path that leads to the same place, or could
be read before. -/
theorem read_of_write
    {tree after : FileTree}
    {path other content text : String}
    {now : Nat}
    (written : tree.write path content now = .ok after)
    (isRead : after.read other = .ok text) :
    tree.read other = .ok text ∨
      text = content ∧
        ∃ names, tree.locate path = .ok names ∧ tree.locate other = .ok names := by
  have unchanged := UnchangedBefore.of_write written
  obtain ⟨names, isExecutable, located, isNone, rfl⟩ := exists_of_write written
  obtain ⟨place, modified, mayRun, locatedOther, standing⟩ := read_eq_ok_iff.mp isRead
  have leadsThere : tree.locate other = .ok place := unchanged.locate_eq_ok_iff.mp locatedOther
  rw [entryAt?_set (ne_nil_of_not_hasDirectory isNone)] at standing
  split at standing
  · rename_i same
    cases standing
    exact .inr ⟨rfl, names, located, same ▸ leadsThere⟩
  · exact .inl (read_eq_ok_iff.mpr ⟨place, modified, mayRun, leadsThere, standing⟩)

/-- What is written is read through the same path. -/
theorem read_of_written
    {tree after : FileTree}
    {path content : String}
    {now : Nat}
    (written : tree.write path content now = .ok after) :
    after.read path = .ok content := by
  have unchanged := UnchangedBefore.of_write written
  obtain ⟨names, isExecutable, located, isNone, rfl⟩ := exists_of_write written
  refine read_eq_ok_iff.mpr ⟨names, now, isExecutable, ?_, ?_⟩
  · exact unchanged.locate_eq_ok_iff.mpr located
  · rw [entryAt?_set (ne_nil_of_not_hasDirectory isNone), if_pos rfl]

/-- What is read elsewhere stays when a file is written. -/
theorem read_of_apart
    {tree after : FileTree}
    {path other content text : String}
    {now : Nat}
    (written : tree.write path content now = .ok after)
    (apart : Apart path other)
    (isRead : tree.read other = .ok text) :
    after.read other = .ok text := by
  have unchanged := UnchangedBefore.of_write written
  obtain ⟨names, isExecutable, located, isNone, rfl⟩ := exists_of_write written
  obtain ⟨place, modified, mayRun, locatedOther, standing⟩ := read_eq_ok_iff.mp isRead
  have elsewhere : place ≠ names := by
    rintro rfl
    exact apart tree tree place located locatedOther
  refine read_eq_ok_iff.mpr ⟨place, modified, mayRun, ?_, ?_⟩
  · exact unchanged.locate_eq_ok_iff.mpr locatedOther
  · rw [entryAt?_set (ne_nil_of_not_hasDirectory isNone), if_neg elsewhere]
    exact standing

/-- What is read after a removal could be read before. -/
theorem read_of_remove
    {tree after : FileTree}
    {path other text : String}
    (removed : tree.remove path = .ok after)
    (isRead : after.read other = .ok text) :
    tree.read other = .ok text := by
  have unchanged := UnchangedBefore.of_remove 0 removed
  obtain ⟨names, isNone, rfl⟩ := exists_of_remove removed
  obtain ⟨place, modified, mayRun, located, standing⟩ := read_eq_ok_iff.mp isRead
  have leadsThere : tree.locate other = .ok place := unchanged.locate_eq_ok_iff.mp located
  rw [entryAt?_erase (ne_nil_of_not_hasDirectory isNone)] at standing
  split at standing
  · cases standing
  · exact read_eq_ok_iff.mpr ⟨place, modified, mayRun, leadsThere, standing⟩

/-! ## Directories that are there -/

/-- Everything that stands in the first tree stands in the second. -/
def Within
    (first second : FileTree) :
    Prop :=
  ∀ names entry, first.entryAt? names = some entry → second.entryAt? names = some entry

theorem Within.refl
    (tree : FileTree) :
    Within tree tree :=
  fun _ _ => id

theorem Within.trans
    {first second third : FileTree}
    (earlier : Within first second)
    (later : Within second third) :
    Within first third :=
  fun names entry standing => later names entry (earlier names entry standing)

/-- A path that leads somewhere still leads there in a larger tree. -/
theorem Within.locate_eq
    {first second : FileTree}
    (isWithin : Within first second)
    {path : String}
    {names : List String}
    (located : first.locate path = .ok names) :
    second.locate path = .ok names := by
  refine locate_eq_ok_of_directories (fun place isDirectory => ?_) located
  obtain ⟨modified, standing⟩ := hasDirectory_iff.mp isDirectory
  exact hasDirectory_iff.mpr ⟨modified, isWithin place _ standing⟩

/-- A file that can be read still reads the same in a larger tree. -/
theorem Within.read_eq
    {first second : FileTree}
    (isWithin : Within first second)
    {path content : String}
    (isRead : first.read path = .ok content) :
    second.read path = .ok content := by
  obtain ⟨names, modified, isExecutable, located, standing⟩ := read_eq_ok_iff.mp isRead
  exact read_eq_ok_iff.mpr
    ⟨names, modified, isExecutable, isWithin.locate_eq located, isWithin _ _ standing⟩

/-- A directory is made only where nothing stands. -/
theorem within_makeDirectory
    {tree after : FileTree}
    {path : String}
    {modified : Nat}
    (made : tree.makeDirectory path modified = .ok after) :
    Within tree after := by
  unfold makeDirectory at made
  split at made
  · cases made
  · rename_i names _
    split at made
    · cases made
    · rename_i absent
      cases made
      intro other entry standing
      have isBelow : names ≠ [] := by
        rintro rfl
        cases absent
      rw [entryAt?_set isBelow]
      split
      · rename_i here
        rw [here, absent] at standing
        cases standing
      · exact standing

theorem within_makeDirectoriesWithin
    {modified levels : Nat}
    {tree after : FileTree}
    {path : String}
    (made : makeDirectoriesWithin modified levels tree path = .ok after) :
    Within tree after := by
  induction levels generalizing path after with
  | zero =>
      cases made
      exact .refl _
  | succ levels inductionHypothesis =>
      rw [makeDirectoriesWithin] at made
      split at made
      · cases made
        exact .refl _
      · split at made
        · rename_i madeHere
          cases made
          exact within_makeDirectory madeHere
        · split at made
          · cases made
          · split at made
            · cases made
            · rename_i madeAbove
              exact (inductionHypothesis madeAbove).trans (within_makeDirectory made)
        · split at made
          · cases made
            exact .refl _
          · cases made

/-- Making directories leaves everything that stands. -/
theorem within_makeDirectories
    {modified : Nat}
    {tree after : FileTree}
    {path : String}
    (made : tree.makeDirectories path modified = .ok after) :
    Within tree after :=
  within_makeDirectoriesWithin made

end FileTree

end BindingStubs
