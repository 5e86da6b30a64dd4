import BindingStubs.Proofs.Cache.EntryFile
import BindingStubs.Proofs.Cache.Session

namespace BindingStubs

/-!
# Genuine entries

An entry is genuine if it holds what a parse made of files as they stood at moments since its
time.  A file that was last changed before then has been the same ever since, so that a genuine
entry that is fresh holds what a parse would make of the files now.  All steps of a session keep
its entries genuine.
-/

/-! ## What moments keep -/

/-- The clock does not go back, and files that were last changed before its time stay. -/
structure Moment.Precedes
    (first second : Moment) : Prop where
  clock : first.clock ≤ second.clock
  files : FileTree.UnchangedBefore first.clock first.files second.files

theorem Moment.Follows.precedes
    {used : CacheKey → Prop}
    {directory : String}
    {first second : Moment}
    (follows : Moment.Follows used directory first second) :
    first.Precedes second := by
  cases follows with
  | wait duration => exact ⟨Nat.le_add_right _ _, .refl _ _⟩
  | write path content written _ => exact ⟨Nat.le_refl _, .of_write written⟩
  | remove path removed => exact ⟨Nat.le_refl _, .of_remove _ removed⟩

/-- An entry is of the source of its key, and holds the fragment of a parse whose reads of files
that were last changed before its time found what stands there now. -/
structure CacheEntry.Genuine
    (parse : Parse)
    (moment : Moment)
    (key : CacheKey)
    (entry : CacheEntry) : Prop where
  source : entry.source = key.source
  parsedAt : entry.parsedAt ≤ moment.clock
  produced :
    ∃ readings,
      parse.fragment? key readings = some entry.fragment ∧
        ∀ path,
          isOlder moment.files entry.parsedAt path = true →
          readings path = moment.files.readings path

namespace CacheEntry.Genuine

variable
  {parse : Parse}
  {moment later : Moment}
  {key : CacheKey}
  {entry : CacheEntry}

theorem of_precedes
    (genuine : Genuine parse moment key entry)
    (precedes : moment.Precedes later) :
    Genuine parse later key entry where
  source := genuine.source
  parsedAt := Nat.le_trans genuine.parsedAt precedes.clock
  produced := by
    obtain ⟨readings, yields, agrees⟩ := genuine.produced
    refine ⟨readings, yields, fun path isOld => ?_⟩
    obtain ⟨sameContent, wasOld⟩ :=
      (precedes.files.mono genuine.parsedAt).read_eq isOld
    rw [agrees path wasOld]
    funext turn
    exact sameContent.symm

end CacheEntry.Genuine

namespace FragmentCache

/-- Writing an entry changes its file alone, at the time of the clock. -/
theorem precedes_writeEntry
    (cache : FragmentCache)
    (moment : Moment)
    (name : String)
    (entry : CacheEntry) :
    moment.Precedes
      { moment with files := cache.writeEntry moment.files moment.clock name entry } := by
  refine ⟨Nat.le_refl _, ?_⟩
  cases written : moment.files.write (cache.entryPath name) entry.text moment.clock with
  | error error =>
      rw [writeEntry, written]
      exact .refl _ _
  | ok after =>
      rw [writeEntry_of_write written]
      exact .of_write written

/-- An entry that is found after one is written is read from the text of that one, for a key of
the same name, or was found before. -/
theorem entryIn?_of_writeEntry
    {cache : FragmentCache}
    {files : FileTree}
    {now : Nat}
    {key other : CacheKey}
    {entry read : CacheEntry}
    (found :
      entryIn? (cache.writeEntry files now key.name entry) (cache.entryPath other.name) =
        some read) :
    entryIn? files (cache.entryPath other.name) = some read ∨
      CacheEntry.ofText? entry.text = some read ∧ other.name = key.name := by
  cases written : files.write (cache.entryPath key.name) entry.text now with
  | error error =>
      rw [writeEntry, written] at found
      exact .inl found
  | ok after =>
      rw [writeEntry_of_write written] at found
      rcases entryIn?_of_write written found with wasFound | ⟨isEntry, names, located, locatedOther⟩
      · exact .inl wasFound
      · exact .inr ⟨isEntry, name_eq_of_locate_eq locatedOther located⟩

end FragmentCache

namespace Session

open FragmentCache

/-- Entries in memory and in files are genuine, and files that were last changed before a running
parse started have been the same ever since. -/
structure Sound
    (parse : Parse)
    (used : CacheKey → Prop)
    (session : Session) : Prop where
  memory :
    ∀ key entry,
      used key →
      session.cache.memory.get? key.name = some entry →
      entry.Genuine parse session.toMoment key
  stored :
    ∀ key entry,
      used key →
      entryIn? session.files (session.cache.entryPath key.name) = some entry →
      entry.Genuine parse session.toMoment key
  running :
    ∀ running ∈ session.running,
      used running.key ∧ running.started ≤ session.clock ∧
        ∀ tree ∈ running.seen,
          FileTree.UnchangedBefore running.started tree session.files

namespace Sound

variable
  {parse : Parse}
  {used : CacheKey → Prop}
  {session : Session}

/-- Whatever is in memory and in files before a moment stays genuine, so that only what is new in
entry files has to be. -/
theorem movedTo
    {moment : Moment}
    (sound : session.Sound parse used)
    (precedes : session.toMoment.Precedes moment)
    (newEntries :
      ∀ key entry,
        used key →
        entryIn? moment.files (session.cache.entryPath key.name) = some entry →
        entryIn? session.files (session.cache.entryPath key.name) = some entry ∨
          entry.Genuine parse session.toMoment key) :
    (session.movedTo moment).Sound parse used where
  memory key entry isUsed found := (sound.memory key entry isUsed found).of_precedes precedes
  stored key entry isUsed found := by
    rcases newEntries key entry isUsed found with wasFound | genuine
    · exact (sound.stored key entry isUsed wasFound).of_precedes precedes
    · exact genuine.of_precedes precedes
  running := by
    intro running member
    obtain ⟨former, isRunning, rfl⟩ := List.mem_map.mp member
    obtain ⟨isUsed, started, unchanged⟩ := sound.running former isRunning
    refine ⟨isUsed, Nat.le_trans started precedes.clock, fun tree isSeen => ?_⟩
    rcases List.mem_cons.mp isSeen with rfl | wasSeen
    · exact .refl _ _
    · exact (unchanged tree wasSeen).trans (precedes.files.mono started)

theorem outside
    {moment : Moment}
    (sound : session.Sound parse used)
    (follows : Moment.Follows used session.cache.directory session.toMoment moment) :
    (session.movedTo moment).Sound parse used := by
  refine sound.movedTo follows.precedes ?_
  intro key entry isUsed found
  cases follows with
  | wait duration => exact .inl found
  | write path text written honest =>
      rcases entryIn?_of_write written found with wasFound | ⟨isEntry, names, located, locatedEntry⟩
      · exact .inl wasFound
      · exact absurd ⟨by rw [isEntry]; rfl, key, names, isUsed, located, locatedEntry⟩ honest
  | remove path removed => exact .inl (entryIn?_of_remove removed found)

/-- A genuine entry may be kept in memory. -/
theorem remember
    {key : CacheKey}
    {entry : CacheEntry}
    (sound : session.Sound parse used)
    (distinct : NamesDiffer used)
    (isUsed : used key)
    (genuine : entry.Genuine parse session.toMoment key) :
    Sound parse used
      { session with
        cache := { session.cache with memory := session.cache.memory.insert key.name entry } } where
  memory other found isUsedToo inMemory := by
    rw [Keyed.get?_insert] at inMemory
    split at inMemory
    · rename_i sameName
      cases inMemory
      rw [distinct other key isUsedToo isUsed sameName]
      exact genuine
    · exact sound.memory other found isUsedToo inMemory
  stored := sound.stored
  running := sound.running

theorem genuine_of_fromFile?
    {key : CacheKey}
    {entry : CacheEntry}
    (sound : session.Sound parse used)
    (isUsed : used key)
    (found : session.cache.fromFile? session.files key = some entry) :
    entry.Genuine parse session.toMoment key ∧
      entry.isFresh session.files key.precompiled = true := by
  obtain ⟨isThere, isFresh⟩ := Option.filter_eq_some_iff.mp found
  rw [Bool.and_eq_true] at isFresh
  exact ⟨sound.stored key entry isUsed isThere, isFresh.2⟩

theorem search
    {key : CacheKey}
    (sound : session.Sound parse used)
    (distinct : NamesDiffer used)
    (isUsed : used key) :
    Sound parse used { session with cache := (session.cache.get session.files key).2 } := by
  cases inMemory : session.cache.fromMemory? session.files key with
  | some entry =>
      rw [FragmentCache.get, inMemory]
      exact sound
  | none =>
      cases inFile : session.cache.fromFile? session.files key with
      | none =>
          rw [FragmentCache.get, inMemory, inFile]
          exact sound
      | some entry =>
          rw [FragmentCache.get, inMemory, inFile]
          exact sound.remember distinct isUsed (sound.genuine_of_fromFile? isUsed inFile).1

/-- A parse sees what stands when it starts. -/
theorem start
    {key : CacheKey}
    (sound : session.Sound parse used)
    (isUsed : used key) :
    (session.starting key).Sound parse used where
  memory := sound.memory
  stored := sound.stored
  running := by
    intro running member
    rcases List.mem_cons.mp member with rfl | wasRunning
    · refine ⟨isUsed, Nat.le_refl _, fun tree isSeen => ?_⟩
      rw [List.mem_singleton.mp isSeen]
      exact .refl _ _
    · exact sound.running running wasRunning

theorem fewer
    {others : List RunningParse}
    (sound : session.Sound parse used)
    (wereRunning : others ⊆ session.running) :
    Sound parse used { session with running := others } where
  memory := sound.memory
  stored := sound.stored
  running running member := sound.running running (wereRunning member)

/-- What a running parse yields is genuine from the start: files that were last changed before it
started were the same at all moments when it read. -/
theorem genuine_of_running
    {finished : RunningParse}
    {readings : Readings}
    {fragment : Fragment}
    (sound : session.Sound parse used)
    (isRunning : finished ∈ session.running)
    (during : readings.During finished.seen)
    (yields : parse.fragment? finished.key readings = some fragment) :
    CacheEntry.Genuine parse session.toMoment finished.key
      { toolVersion := toolVersion
        source := finished.key.source
        parsedAt := finished.started
        fragment } where
  source := rfl
  parsedAt := (sound.running finished isRunning).2.1
  produced := by
    refine ⟨readings, yields, fun path isOld => ?_⟩
    funext turn
    obtain ⟨tree, isSeen, isRead⟩ := during path turn
    have unchanged := (sound.running finished isRunning).2.2 tree isSeen
    exact isRead.trans (unchanged.read_eq isOld).1.symm

theorem store
    {finished : RunningParse}
    {others : List RunningParse}
    {readings : Readings}
    {fragment : Fragment}
    (sound : session.Sound parse used)
    (distinct : NamesDiffer used)
    (isRunning : finished ∈ session.running)
    (wereRunning : others ⊆ session.running)
    (during : readings.During finished.seen)
    (yields : parse.fragment? finished.key readings = some fragment) :
    (session.stored finished others fragment).Sound parse used := by
  have isUsed := (sound.running finished isRunning).1
  have genuine := sound.genuine_of_running isRunning during yields
  have remembered := (sound.fewer wereRunning).remember distinct isUsed genuine
  obtain ⟨parsed, _, extracted, _⟩ := Parse.fragment?_eq_some_iff.mp yields
  have isIndexed := Extraction.asRead_of_extract extracted
  simp only [Session.stored, put]
  refine remembered.movedTo (session.cache.precedes_writeEntry session.toMoment _ _) ?_
  intro key entry isUsedToo found
  dsimp only at found ⊢
  rcases entryIn?_of_writeEntry found with wasFound | ⟨isEntry, sameName⟩
  · exact .inl wasFound
  · rw [CacheEntry.eq_of_ofText?_text isIndexed isEntry,
      distinct key finished.key isUsedToo isUsed sameName]
    exact .inr genuine

/-- With nothing in memory there is nothing that could be stale. -/
theorem reopen
    {cache : FragmentCache}
    (sound : session.Sound parse used)
    (opened :
      openAt session.cache.directory session.files session.clock = (cache, session.files)) :
    Sound parse used { session with cache } := by
  obtain ⟨rfl, _⟩ := Prod.mk.inj opened
  refine ⟨?_, sound.stored, sound.running⟩
  intro key entry _ inMemory
  rw [Keyed.get?_empty] at inMemory
  cases inMemory

/-- Every step keeps entries genuine. -/
theorem step
    {next : Session}
    (sound : session.Sound parse used)
    (distinct : NamesDiffer used)
    (taken : Step parse used session next) :
    next.Sound parse used := by
  cases taken with
  | outside follows => exact sound.outside follows
  | search key isUsed => exact sound.search distinct isUsed
  | start key isUsed => exact sound.start isUsed
  | store isRunning during yields =>
      refine sound.store distinct ?_ ?_ during yields
      · rw [isRunning]
        exact List.mem_append_right _ List.mem_cons_self
      · rw [isRunning]
        exact (List.sublist_cons_self ..).append_left _ |>.subset
  | giveUp isRunning =>
      refine sound.fewer ?_
      rw [isRunning]
      exact (List.sublist_cons_self ..).append_left _ |>.subset
  | reopen opened => exact sound.reopen opened

end Sound

/-- Entries are genuine in every session that a history leads to. -/
theorem Reachable.sound
    {parse : Parse}
    {used : CacheKey → Prop}
    {session : Session}
    (reachable : Reachable parse used session)
    (distinct : NamesDiffer used) :
    session.Sound parse used := by
  induction reachable with
  | initial isInitial =>
      refine ⟨?_, ?_, ?_⟩
      · intro key entry _ inMemory
        rw [isInitial.memory, Keyed.get?_empty] at inMemory
        cases inMemory
      · intro key entry isUsed found
        rw [isInitial.noEntry key isUsed] at found
        cases found
      · rw [isInitial.running]
        exact nofun
  | step _ taken inductionHypothesis => exact inductionHypothesis.step distinct taken

end Session

end BindingStubs
