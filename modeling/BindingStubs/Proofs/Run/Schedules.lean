import BindingStubs.Proofs.Run.Pool

namespace BindingStubs

/-!
# Runs do not depend on the schedule

Whatever stands in the cache while the jobs of a run are at work is what the front end answers,
whichever job has put it there.  So every job comes to the outcome that the front end gives it,
in whichever order the jobs take their steps, and what a run aggregates depends on its inputs
alone.  Only two jobs whose entries have one name can be mistaken for each other.
-/

/-! ## What the jobs of a run should come to -/

/-- The jobs of a run, the cache and the files that it starts with, and what the front end answers
to each job. -/
structure Workload where
  frontend : Frontend
  answer : Job → Except Failure ParsedUnit
  cache : UsedCache
  jobs : List Job
  files : FileTree

namespace FoundFragment

/-- A fragment, whether or not it came from the cache. -/
def plain
    (found : FoundFragment) :
    FoundFragment :=
  { found with isCached := false }

end FoundFragment

namespace Workload

variable (workload : Workload)

/-- The name under which the entry of a job stands. -/
def nameOf
    (job : Job) :
    String :=
  (job.key workload.frontend.fingerprint).name

/-- The fragment of a job, by the answer of the front end. -/
def fragmentOf
    (job : Job) :
    Except Failure Fragment :=
  match workload.answer job with
  | .error failure => .error failure
  | .ok parsed =>
      match Extraction.extract parsed.unit with
      | .error fault => .error (Failure.ofFault fault)
      | .ok model => .ok { model, dependencies := parsed.dependencies }

/-- The outcome of a job, by the answer of the front end. -/
def outcomeOf
    (job : Job) :
    Except Failure FoundFragment :=
  match workload.fragmentOf job with
  | .error failure => .error (failure.withNote ("while extracting " ++ job.source))
  | .ok fragment => .ok { source := job.source, fragment, isCached := false }

/-- Files that differ from the first ones in the entries of jobs alone. -/
inductive Leaves : FileTree → Prop where
  | start : Leaves workload.files
  | store {used : FragmentCache} {files : FileTree} {job : Job} (now : Nat) (entry : CacheEntry) :
      workload.cache = some used →
      job ∈ workload.jobs →
      Leaves files →
      Leaves (used.writeEntry files now (workload.nameOf job) entry)

/-- An entry that holds the fragment of a job whenever it is fresh. -/
def Serves
    (entry : CacheEntry)
    (job : Job) :
    Prop :=
  ∀ files,
    workload.Leaves files →
    entry.isFresh files job.precompiled = true →
    workload.fragmentOf job = .ok entry.fragment

/-- The entries that a cache has for the jobs, in memory and in files, hold their fragments
whenever they are fresh. -/
structure Holds
    (used : FragmentCache)
    (files : FileTree) : Prop where
  memory :
    ∀ job ∈ workload.jobs,
      ∀ entry,
        used.memory.get? (workload.nameOf job) = some entry →
        workload.Serves entry job
  stored :
    ∀ job ∈ workload.jobs,
      ∀ entry,
        FragmentCache.entryIn? files (used.entryPath (workload.nameOf job)) = some entry →
        FilePath.same entry.source job.source = true →
        workload.Serves entry job

/-- The front end gives its answer whenever it is asked, and changes no files; and the entries
that there are at the start agree with it. -/
structure Steady : Prop where
  answers :
    ∀ job ∈ workload.jobs,
      ∀ world : World,
        workload.Leaves world.files →
        ∃ after : World,
          after.files = world.files ∧
            workload.frontend.parse job.source job.precompiled world =
              Acting.ofExcept (workload.answer job) after
  holds : ∀ used, workload.cache = some used → workload.Holds used workload.files

/-- The keys of the jobs in the cache. -/
def keys : List CacheKey :=
  workload.jobs.map fun job => job.key workload.frontend.fingerprint

/-! ## Steps -/

/-- What the jobs share while they are at work. -/
structure Shared
    (cache : UsedCache)
    (files : FileTree) : Prop where
  leaves : workload.Leaves files
  directory : cache.map FragmentCache.directory = workload.cache.map FragmentCache.directory
  holds : ∀ used, cache = some used → workload.Holds used files

/-- A stage that a job can come to. -/
def Reaches
    (job : Job) :
    Stage → Prop
  | .waiting => True
  | .missed => True
  | .produced _ fragment => workload.fragmentOf job = .ok fragment
  | .finished outcome => outcome.map FoundFragment.plain = workload.outcomeOf job

variable {workload}

/-- Jobs whose entries have one name are the same, if names do not collide. -/
theorem job_eq_of_nameOf_eq
    (distinct : NamesDiffer (· ∈ workload.keys))
    {first second : Job}
    (firstMember : first ∈ workload.jobs)
    (secondMember : second ∈ workload.jobs)
    (sameName : workload.nameOf first = workload.nameOf second) :
    first = second := by
  have sameKey :=
    distinct _ _ (List.mem_map_of_mem firstMember) (List.mem_map_of_mem secondMember) sameName
  obtain ⟨source, precompiled⟩ := first
  obtain ⟨otherSource, otherPrecompiled⟩ := second
  cases sameKey
  rfl

theorem reaches_finished_of_fragmentOf
    {job : Job}
    {fragment : Fragment}
    (isFragment : workload.fragmentOf job = .ok fragment)
    (isCached : Bool) :
    workload.Reaches job (.finished (.ok { source := job.source, fragment, isCached })) := by
  simp only [Reaches, outcomeOf, isFragment]
  rfl

theorem serves_of_fragmentOf
    {job : Job}
    {entry : CacheEntry}
    (isFragment : workload.fragmentOf job = .ok entry.fragment) :
    workload.Serves entry job :=
  fun _ _ _ => isFragment

/-- A fragment that a front end answers is read back from an entry as it was. -/
theorem asRead_of_fragmentOf
    {job : Job}
    {fragment : Fragment}
    (isFragment : workload.fragmentOf job = .ok fragment) :
    fragment.model.asRead.reindex = fragment.model := by
  rw [fragmentOf] at isFragment
  split at isFragment
  · cases isFragment
  · split at isFragment
    · cases isFragment
    · rename_i extracted
      cases isFragment
      exact Extraction.asRead_of_extract extracted

/-- Producing a job comes to what the front end answers. -/
theorem Steady.exists_produce_eq
    (steady : workload.Steady)
    {job : Job}
    (member : job ∈ workload.jobs)
    {world : World}
    (leaves : workload.Leaves world.files) :
    ∃ after : World,
      after.files = world.files ∧
        job.produce workload.frontend world = Acting.ofExcept (workload.fragmentOf job) after := by
  obtain ⟨after, sameFiles, answered⟩ :=
    steady.answers job member
      { world with requests := world.requests ++ [.parse job.source job.precompiled] } leaves
  refine ⟨after, sameFiles, ?_⟩
  rw [Job.produce_eq, answered, fragmentOf]
  cases workload.answer job with
  | error failure => rfl
  | ok parsed =>
      simp only [Acting.ofExcept, pure, EStateM.pure]
      cases Extraction.extract parsed.unit <;> rfl

namespace Holds

variable {used : FragmentCache} {files : FileTree} {job : Job}

/-- A fragment that is found is that of the job. -/
theorem fragmentOf_eq
    (holds : workload.Holds used files)
    (leaves : workload.Leaves files)
    (member : job ∈ workload.jobs)
    {fragment : Fragment}
    {after : FragmentCache}
    (found :
      used.get files (job.key workload.frontend.fingerprint) = (some fragment, after)) :
    workload.fragmentOf job = .ok fragment := by
  rw [FragmentCache.get] at found
  cases inMemory : used.fromMemory? files (job.key workload.frontend.fingerprint) with
  | some entry =>
      rw [inMemory] at found
      cases found
      obtain ⟨isThere, isFresh⟩ := Option.filter_eq_some_iff.mp inMemory
      exact holds.memory job member entry isThere files leaves isFresh
  | none =>
      rw [inMemory] at found
      cases inFile : used.fromFile? files (job.key workload.frontend.fingerprint) with
      | none =>
          rw [inFile] at found
          cases found
      | some entry =>
          rw [inFile] at found
          cases found
          obtain ⟨isThere, accepted⟩ := Option.filter_eq_some_iff.mp inFile
          obtain ⟨isSame, isFresh⟩ := Bool.and_eq_true_iff.mp accepted
          exact holds.stored job member entry isThere isSame files leaves isFresh

/-- An entry that serves a job may be kept in memory. -/
theorem remember
    (holds : workload.Holds used files)
    (distinct : NamesDiffer (· ∈ workload.keys))
    (member : job ∈ workload.jobs)
    {entry : CacheEntry}
    (serves : workload.Serves entry job) :
    workload.Holds { used with memory := used.memory.insert (workload.nameOf job) entry }
      files where
  memory other otherMember found inMemory := by
    rw [Keyed.get?_insert] at inMemory
    split at inMemory
    · rename_i sameName
      cases inMemory
      rw [job_eq_of_nameOf_eq distinct otherMember member sameName]
      exact serves
    · exact holds.memory other otherMember found inMemory
  stored := holds.stored

/-- Looking for a fragment keeps what the cache holds. -/
theorem get
    (holds : workload.Holds used files)
    (distinct : NamesDiffer (· ∈ workload.keys))
    (member : job ∈ workload.jobs) :
    workload.Holds (used.get files (job.key workload.frontend.fingerprint)).2 files := by
  rw [FragmentCache.get]
  cases inMemory : used.fromMemory? files (job.key workload.frontend.fingerprint) with
  | some entry => exact holds
  | none =>
      cases inFile : used.fromFile? files (job.key workload.frontend.fingerprint) with
      | none => exact holds
      | some entry =>
          obtain ⟨isThere, accepted⟩ := Option.filter_eq_some_iff.mp inFile
          obtain ⟨isSame, _⟩ := Bool.and_eq_true_iff.mp accepted
          exact holds.remember distinct member (holds.stored job member entry isThere isSame)

/-- Storing the fragment of a job keeps what the cache holds. -/
theorem put
    (holds : workload.Holds used files)
    (distinct : NamesDiffer (· ∈ workload.keys))
    (member : job ∈ workload.jobs)
    {fragment : Fragment}
    (isFragment : workload.fragmentOf job = .ok fragment)
    (now started : Nat) :
    let stored := used.put files now (job.key workload.frontend.fingerprint) fragment started
    workload.Holds stored.1 stored.2 := by
  have serves :
      workload.Serves
        { toolVersion := toolVersion, source := job.source, parsedAt := started, fragment } job :=
    serves_of_fragmentOf isFragment
  simp only [FragmentCache.put]
  refine ⟨(holds.remember distinct member serves).memory, ?_⟩
  intro other otherMember entry found isSame
  dsimp only [nameOf, FragmentCache.entryPath] at found
  rcases FragmentCache.entryIn?_of_writeEntry found with wasFound | ⟨isEntry, sameName⟩
  · exact holds.stored other otherMember entry wasFound isSame
  · rw [CacheEntry.eq_of_ofText?_text (asRead_of_fragmentOf isFragment) isEntry,
      job_eq_of_nameOf_eq distinct otherMember member sameName]
    exact serves

end Holds

end Workload

theorem FragmentCache.directory_get
    (cache : FragmentCache)
    (files : FileTree)
    (key : CacheKey) :
    (cache.get files key).2.directory = cache.directory := by
  rw [get]
  cases cache.fromMemory? files key with
  | some entry => rfl
  | none => cases cache.fromFile? files key <;> rfl

namespace Workload

variable {workload : Workload}

/-- Files are left as a step of a job may leave them when an entry of the job is stored. -/
theorem Shared.leaves_put
    {used : FragmentCache}
    {files : FileTree}
    (shared : workload.Shared (some used) files)
    {job : Job}
    (member : job ∈ workload.jobs)
    (fragment : Fragment)
    (now started : Nat) :
    workload.Leaves
      (used.put files now (job.key workload.frontend.fingerprint) fragment started).2 := by
  obtain ⟨first, isFirst, sameDirectory⟩ := Option.map_eq_some_iff.mp shared.directory.symm
  have sameEntries : used.writeEntry = first.writeEntry := by
    funext files now name entry
    simp only [FragmentCache.writeEntry, FragmentCache.entryPath, sameDirectory]
  rw [FragmentCache.put]
  dsimp only
  rw [sameEntries]
  exact .store now _ isFirst member shared.leaves

section Stages

variable {cache : UsedCache} {world : World} {job : Job}

/-- Looking for the fragment of a job keeps what the jobs share. -/
theorem Shared.get
    {used : FragmentCache}
    {files : FileTree}
    (distinct : NamesDiffer (· ∈ workload.keys))
    (shared : workload.Shared (some used) files)
    (member : job ∈ workload.jobs) :
    workload.Shared (some (used.get files (job.key workload.frontend.fingerprint)).2) files where
  leaves := shared.leaves
  directory := by
    rw [← shared.directory, Option.map_some, Option.map_some, FragmentCache.directory_get]
  holds := by
    rintro _ ⟨⟩
    exact (shared.holds used rfl).get distinct member

/-- A job that waits has its fragment in the cache, or is missed there. -/
theorem Shared.advance_waiting
    (distinct : NamesDiffer (· ∈ workload.keys))
    (shared : workload.Shared cache world.files)
    (member : job ∈ workload.jobs) :
    let advanced := Task.advance workload.frontend { job, stage := .waiting } cache world
    workload.Shared advanced.2.1 advanced.2.2.files ∧ workload.Reaches job advanced.1 := by
  cases cache with
  | none => exact ⟨shared, trivial⟩
  | some used =>
      have keeps := shared.get distinct member
      rcases looked : used.get world.files (job.key workload.frontend.fingerprint) with
        ⟨found, after⟩
      rw [looked] at keeps
      cases found with
      | none =>
          simp only [Task.advance, UsedCache.get, looked]
          exact ⟨keeps, trivial⟩
      | some fragment =>
          simp only [Task.advance, UsedCache.get, looked]
          have isFragment := (shared.holds used rfl).fragmentOf_eq shared.leaves member looked
          exact ⟨keeps, reaches_finished_of_fragmentOf isFragment true⟩

/-- A job that is missed in the cache is produced, or fails, as the front end answers. -/
theorem Shared.advance_missed
    (steady : workload.Steady)
    (shared : workload.Shared cache world.files)
    (member : job ∈ workload.jobs) :
    let advanced := Task.advance workload.frontend { job, stage := .missed } cache world
    workload.Shared advanced.2.1 advanced.2.2.files ∧ workload.Reaches job advanced.1 := by
  obtain ⟨after, sameFiles, isProduced⟩ :=
    steady.exists_produce_eq member (show workload.Leaves world.later.files from shared.leaves)
  have keeps : workload.Shared cache after.files := by
    rw [sameFiles]
    exact shared
  cases isFragment : workload.fragmentOf job with
  | error failure =>
      rw [isFragment] at isProduced
      simp only [Task.advance, Acting.noting, isProduced]
      refine ⟨keeps, ?_⟩
      simp only [Reaches, outcomeOf, isFragment]
      rfl
  | ok fragment =>
      rw [isFragment] at isProduced
      simp only [Task.advance, Acting.noting, isProduced]
      exact ⟨keeps, isFragment⟩

/-- The fragment that is produced for a job is stored, and is the outcome of the job. -/
theorem Shared.advance_produced
    (distinct : NamesDiffer (· ∈ workload.keys))
    (shared : workload.Shared cache world.files)
    (member : job ∈ workload.jobs)
    (started : Nat)
    {fragment : Fragment}
    (isFragment : workload.fragmentOf job = .ok fragment) :
    let advanced :=
      Task.advance workload.frontend { job, stage := .produced started fragment } cache world
    workload.Shared advanced.2.1 advanced.2.2.files ∧ workload.Reaches job advanced.1 := by
  have isOutcome := reaches_finished_of_fragmentOf isFragment false
  cases cache with
  | none => exact ⟨shared, isOutcome⟩
  | some used =>
      refine ⟨⟨shared.leaves_put member fragment world.clock started, shared.directory, ?_⟩,
        isOutcome⟩
      rintro _ ⟨⟩
      exact (shared.holds used rfl).put distinct member isFragment world.clock started

end Stages

/-- A step of a job keeps what the jobs share, and leads to a stage that the job can come to. -/
theorem Shared.advance
    {cache : UsedCache}
    {world : World}
    {task : Task}
    (steady : workload.Steady)
    (distinct : NamesDiffer (· ∈ workload.keys))
    (shared : workload.Shared cache world.files)
    (member : task.job ∈ workload.jobs)
    (reaches : workload.Reaches task.job task.stage) :
    let advanced := task.advance workload.frontend cache world
    workload.Shared advanced.2.1 advanced.2.2.files ∧ workload.Reaches task.job advanced.1 := by
  obtain ⟨job, stage⟩ := task
  cases stage with
  | waiting => exact shared.advance_waiting distinct member
  | missed => exact shared.advance_missed steady member
  | produced started fragment => exact shared.advance_produced distinct member started reaches
  | finished outcome => exact ⟨shared, reaches⟩

/-! ## Schedules -/

/-- What holds of the pool after any number of steps. -/
structure Sound
    (workload : Workload)
    (pool : Pool) : Prop where
  shared : workload.Shared pool.cache pool.world.files
  jobs : pool.tasks.map Task.job = workload.jobs
  reaches : ∀ task ∈ pool.tasks, workload.Reaches task.job task.stage

theorem Steady.sound_start
    (steady : workload.Steady)
    {world : World}
    (sameFiles : world.files = workload.files) :
    workload.Sound (Pool.start workload.cache workload.jobs world) where
  shared :=
    { leaves := by
        rw [show (Pool.start workload.cache workload.jobs world).world.files = _ from sameFiles]
        exact .start
      directory := rfl
      holds := by
        rw [show (Pool.start workload.cache workload.jobs world).world.files = _ from sameFiles]
        exact steady.holds }
  jobs := by simp [Pool.start, Function.comp_def]
  reaches task member := by
    obtain ⟨job, _, rfl⟩ := List.mem_map.mp member
    trivial

/-- A step keeps the pool sound. -/
theorem Sound.step
    {pool : Pool}
    (steady : workload.Steady)
    (distinct : NamesDiffer (· ∈ workload.keys))
    (sound : workload.Sound pool)
    (index : Nat) :
    workload.Sound (pool.step workload.frontend index) := by
  have sameJobs := (pool.map_job_run workload.frontend [index]).trans sound.jobs
  rw [Pool.run, List.foldl_cons, List.foldl_nil] at sameJobs
  rw [Pool.step] at sameJobs ⊢
  cases atIndex : pool.tasks[index]? with
  | none => exact sound
  | some task =>
      simp only [atIndex] at sameJobs ⊢
      have isThere := List.mem_of_getElem? atIndex
      have member : task.job ∈ workload.jobs := by
        rw [← sound.jobs]
        exact List.mem_map_of_mem isThere
      obtain ⟨shared, reaches⟩ :=
        sound.shared.advance steady distinct member (sound.reaches task isThere)
      refine ⟨shared, sameJobs, fun other isOther => ?_⟩
      rcases List.mem_or_eq_of_mem_set isOther with wasThere | rfl
      · exact sound.reaches other wasThere
      · exact reaches

/-- Every schedule keeps the pool sound. -/
theorem Sound.run
    {pool : Pool}
    (steady : workload.Steady)
    (distinct : NamesDiffer (· ∈ workload.keys))
    (sound : workload.Sound pool)
    (schedule : List Nat) :
    workload.Sound (pool.run workload.frontend schedule) := by
  induction schedule generalizing pool with
  | nil => exact sound
  | cons index schedule inductionHypothesis =>
      exact inductionHypothesis (sound.step steady distinct index)

/-- When all jobs are finished, they have come to what the front end answers. -/
theorem Sound.outcomes_eq
    {pool : Pool}
    (sound : workload.Sound pool)
    (areFinished : ∀ task ∈ pool.tasks, ∃ outcome, task.stage = .finished outcome) :
    pool.outcomes.map (Except.map FoundFragment.plain) =
      workload.jobs.map workload.outcomeOf := by
  have eachComes :
      ∀ tasks : List Task,
        (∀ task ∈ tasks, workload.Reaches task.job task.stage) →
        (∀ task ∈ tasks, ∃ outcome, task.stage = .finished outcome) →
        (tasks.filterMap fun task => task.stage.outcome?).map (Except.map FoundFragment.plain) =
          tasks.map fun task => workload.outcomeOf task.job := by
    intro tasks reaches areFinished
    induction tasks with
    | nil => rfl
    | cons task tasks inductionHypothesis =>
        obtain ⟨outcome, isFinished⟩ := areFinished task List.mem_cons_self
        have comes := reaches task List.mem_cons_self
        rw [isFinished, Reaches] at comes
        rw [List.filterMap_cons, isFinished, Stage.outcome?, List.map_cons, List.map_cons, comes,
          inductionHypothesis (fun other isThere => reaches other (List.mem_cons_of_mem _ isThere))
            (fun other isThere => areFinished other (List.mem_cons_of_mem _ isThere))]
  rw [Pool.outcomes, eachComes _ sound.reaches areFinished, ← sound.jobs, List.map_map]
  rfl

end Workload

/-! ## Aggregates -/

theorem failuresOf_map
    {Value Result : Type}
    (change : Value → Result)
    (outcomes : List (Except Failure Value)) :
    failuresOf (outcomes.map (Except.map change)) = failuresOf outcomes := by
  rw [failuresOf, failuresOf, List.filterMap_map]
  congr 1
  funext outcome
  cases outcome <;> rfl

theorem valuesOf_map
    {Value Result : Type}
    (change : Value → Result)
    (outcomes : List (Except Failure Value)) :
    valuesOf (outcomes.map (Except.map change)) = (valuesOf outcomes).map change := by
  rw [valuesOf, valuesOf, List.filterMap_map, List.map_filterMap]
  congr 1
  funext outcome
  cases outcome <;> rfl

namespace Run

/-- Merge everything that a run knows and assign names, with the fragments collected in some
way. -/
def aggregateBy
    (collect : List Job → Running (List FoundFragment))
    (frontend : Frontend)
    (options : RunOptions) :
    Running Aggregate := do
  let imported ← (loadImports options.imports .empty).alone
  (preparePrecompiled frontend options).alone
  let fragments ← collect
    (Job.ofInputs options.inputs options.precompiled options.firstIsPrecompiled)
  let merged ← (Acting.ofExcept (mergeFragments fragments imported)).alone
  let named ← (Acting.ofExcept
    (registering "while assigning fully-qualified names"
      (BindingModel.assignNames options.package) merged)).alone
  return {
    model := named
    dependencies :=
      Keyed.ofList (fragments.map fun found => (found.source, found.fragment.dependencies))
    cached := fragments.countP FoundFragment.isCached }

theorem aggregate_eq
    (frontend : Frontend)
    (options : RunOptions)
    (cache : UsedCache) :
    aggregate frontend options cache =
      aggregateBy (collectFragments frontend cache) frontend options :=
  rfl

/-- The fragments of all inputs when the jobs take their steps by a schedule.  Jobs that the
schedule does not finish are finished one after the other. -/
def collectScheduled
    (frontend : Frontend)
    (schedule : List Nat)
    (cache : UsedCache)
    (jobs : List Job) :
    Running (List FoundFragment) :=
  fun world =>
    let pool :=
      (Pool.start cache jobs world).run frontend (schedule ++ Pool.inOrder 0 jobs.length)
    match failuresOf pool.outcomes with
    | [] => .ok (valuesOf pool.outcomes) pool.world
    | failures => .error failures pool.world

/-- A schedule that finishes all jobs is all that happens. -/
theorem collectScheduled_of_finished
    {frontend : Frontend}
    {schedule : List Nat}
    {cache : UsedCache}
    {jobs : List Job}
    {world : World}
    (areFinished :
      ∀ task ∈ ((Pool.start cache jobs world).run frontend schedule).tasks,
        ∃ outcome, task.stage = .finished outcome) :
    collectScheduled frontend schedule cache jobs world =
      let pool := (Pool.start cache jobs world).run frontend schedule
      match failuresOf pool.outcomes with
      | [] => .ok (valuesOf pool.outcomes) pool.world
      | failures => .error failures pool.world := by
  have sameEnd :
      (Pool.start cache jobs world).run frontend (schedule ++ Pool.inOrder 0 jobs.length) =
        (Pool.start cache jobs world).run frontend schedule := by
    rw [Pool.run, List.foldl_append]
    exact Pool.run_of_finished frontend areFinished _
  rw [collectScheduled, sameEnd]

/-- Taking one job after the other is the schedule in which nothing comes before that. -/
theorem collectScheduled_nil
    (frontend : Frontend)
    (cache : UsedCache)
    (jobs : List Job) :
    collectScheduled frontend [] cache jobs = collectFragments frontend cache jobs := by
  funext world
  have alone := Pool.outcomes_run_inOrder frontend world cache jobs []
  simp only [List.nil_append, List.length_nil, List.filterMap_nil] at alone
  let answer (outcomes : List (Except Failure FoundFragment)) (after : World) :
      EStateM.Result (List Failure) World (List FoundFragment) :=
    match failuresOf outcomes with
    | [] => .ok (valuesOf outcomes) after
    | failures => .error failures after
  exact congrArg₂ answer alone.1 alone.2

/-- The model and the dependencies of an aggregate, or the failures in their order. -/
def answerOf :
    EStateM.Result (List Failure) World Aggregate →
      Except (List Failure) (BindingModel × Keyed (List String))
  | .ok aggregate _ => .ok (aggregate.model, aggregate.dependencies)
  | .error failures _ => .error failures

/-- What a run aggregates from an imported model and the fragments of its jobs. -/
def mergedOf
    (options : RunOptions)
    (imported : BindingModel)
    (fragments : List FoundFragment) :
    Except Failure (BindingModel × Keyed (List String)) := do
  let merged ← mergeFragments fragments imported
  let named ←
    registering "while assigning fully-qualified names" (BindingModel.assignNames options.package)
      merged
  return (named,
    Keyed.ofList (fragments.map fun found => (found.source, found.fragment.dependencies)))

/-- What a run aggregates from an imported model and the outcomes of its jobs.  When jobs failed,
these are their failures, and nothing is merged. -/
def aggregateOf
    (options : RunOptions)
    (imported : BindingModel)
    (outcomes : List (Except Failure FoundFragment)) :
    Except (List Failure) (BindingModel × Keyed (List String)) :=
  match failuresOf outcomes with
  | [] => (mergedOf options imported (valuesOf outcomes)).mapError fun failure => [failure]
  | failures => .error failures

/-- Load imported artifacts and make the precompiled header ready. -/
def prepare
    (frontend : Frontend)
    (options : RunOptions) :
    Running BindingModel := do
  let imported ← (loadImports options.imports .empty).alone
  (preparePrecompiled frontend options).alone
  return imported

/-- A run merges what it has collected. -/
theorem answerOf_aggregateBy
    (collect : List Job → Running (List FoundFragment))
    (frontend : Frontend)
    (options : RunOptions)
    (world : World) :
    answerOf (aggregateBy collect frontend options world) =
      match prepare frontend options world with
      | .error failures _ => .error failures
      | .ok imported prepared =>
          match
            collect
              (Job.ofInputs options.inputs options.precompiled options.firstIsPrecompiled)
              prepared with
          | .error failures _ => .error failures
          | .ok fragments _ =>
              (mergedOf options imported fragments).mapError fun failure => [failure] := by
  simp only [aggregateBy, prepare, bind, EStateM.bind]
  cases (loadImports options.imports .empty).alone world with
  | error failures later => rfl
  | ok imported loaded =>
      dsimp only
      cases (preparePrecompiled frontend options).alone loaded with
      | error failures later => rfl
      | ok _ prepared =>
          simp only [pure, EStateM.pure]
          cases
            collect
              (Job.ofInputs options.inputs options.precompiled options.firstIsPrecompiled)
              prepared with
          | error failures later => rfl
          | ok fragments later =>
              simp only [mergedOf]
              cases mergeFragments fragments imported with
              | error failure => rfl
              | ok merged =>
                  simp only [bind, Except.bind, Acting.alone, Acting.ofExcept, pure, EStateM.pure]
                  cases
                    registering "while assigning fully-qualified names"
                      (BindingModel.assignNames options.package) merged with
                  | error failure => rfl
                  | ok named => rfl

/-- Where a fragment comes from makes no difference to what it is merged to. -/
theorem mergedOf_map_plain
    (options : RunOptions)
    (imported : BindingModel)
    (fragments : List FoundFragment) :
    mergedOf options imported (fragments.map FoundFragment.plain) =
      mergedOf options imported fragments := by
  have sameMerge :
      ∀ (fragments : List FoundFragment) (model : BindingModel),
        mergeFragments (fragments.map FoundFragment.plain) model =
          mergeFragments fragments model := by
    intro fragments
    induction fragments with
    | nil => exact fun _ => rfl
    | cons found rest inductionHypothesis =>
        intro model
        simp only [List.map_cons, mergeFragments, FoundFragment.plain]
        cases
          registering ("while merging the registrations of " ++ found.source)
            (BindingModel.merge found.fragment.model) model with
        | error failure => rfl
        | ok merged => exact inductionHypothesis merged
  rw [mergedOf, mergedOf, sameMerge, List.map_map]
  rfl

theorem aggregateOf_map_plain
    (options : RunOptions)
    (imported : BindingModel)
    (outcomes : List (Except Failure FoundFragment)) :
    aggregateOf options imported (outcomes.map (Except.map FoundFragment.plain)) =
      aggregateOf options imported outcomes := by
  rw [aggregateOf, failuresOf_map, valuesOf_map, mergedOf_map_plain, aggregateOf]

/-- The workload in which the jobs of a run start. -/
def workloadOf
    (frontend : Frontend)
    (answer : Job → Except Failure ParsedUnit)
    (options : RunOptions)
    (cache : UsedCache)
    (files : FileTree) :
    Workload :=
  { frontend
    answer
    cache
    jobs := Job.ofInputs options.inputs options.precompiled options.firstIsPrecompiled
    files }

section Scheduled

variable
  {frontend : Frontend}
  {answer : Job → Except Failure ParsedUnit}
  {options : RunOptions}
  {cache : UsedCache}
  {world : World}

/-- By any schedule a run aggregates what the front end answers to its jobs, in their order. -/
theorem answerOf_scheduled
    {imported : BindingModel}
    {prepared : World}
    (isPrepared : prepare frontend options world = .ok imported prepared)
    (steady : (workloadOf frontend answer options cache prepared.files).Steady)
    (distinct :
      NamesDiffer (· ∈ (workloadOf frontend answer options cache prepared.files).keys))
    (schedule : List Nat) :
    answerOf (aggregateBy (collectScheduled frontend schedule cache) frontend options world) =
      aggregateOf options imported
        ((workloadOf frontend answer options cache prepared.files).jobs.map
          (workloadOf frontend answer options cache prepared.files).outcomeOf) := by
  generalize isWorkload : workloadOf frontend answer options cache prepared.files = workload at *
  have sameFrontend : workload.frontend = frontend := isWorkload ▸ rfl
  have sameCache : workload.cache = cache := isWorkload ▸ rfl
  have sameFiles : prepared.files = workload.files := isWorkload ▸ rfl
  have sameJobs :
      Job.ofInputs options.inputs options.precompiled options.firstIsPrecompiled =
        workload.jobs :=
    isWorkload ▸ rfl
  have turns :
      ∀ index < workload.jobs.length,
        3 ≤ (schedule ++ Pool.inOrder 0 workload.jobs.length).count index := by
    intro index inRange
    rw [List.count_append, Pool.count_inOrder (by omega)]
    omega
  have sound := (steady.sound_start sameFiles).run steady distinct
    (schedule ++ Pool.inOrder 0 workload.jobs.length)
  have comes := sound.outcomes_eq (Pool.exists_outcome_of_turns workload.frontend turns)
  rw [answerOf_aggregateBy, isPrepared, ← comes, aggregateOf_map_plain, aggregateOf]
  simp only [sameJobs, collectScheduled, ← sameFrontend, ← sameCache]
  cases failuresOf (Pool.run workload.frontend _ _).outcomes <;> rfl

/-- The model and the dependencies that a run aggregates do not depend on the schedule of its jobs:
they are those of the run that takes one job after the other.  They are merged from the imported
artifacts and from what the front end answers to each input, in the order of the inputs, or else
all inputs that fail are reported in their order. -/
theorem aggregate_ignores_schedule
    (steady :
      ∀ imported prepared,
        prepare frontend options world = .ok imported prepared →
        (workloadOf frontend answer options cache prepared.files).Steady)
    (distinct : NamesDiffer (· ∈ (workloadOf frontend answer options cache world.files).keys))
    (schedule : List Nat) :
    answerOf (aggregateBy (collectScheduled frontend schedule cache) frontend options world) =
        answerOf (aggregate frontend options cache world) ∧
      ∀ imported prepared,
        prepare frontend options world = .ok imported prepared →
        answerOf (aggregate frontend options cache world) =
          aggregateOf options imported
            ((workloadOf frontend answer options cache prepared.files).jobs.map
              (workloadOf frontend answer options cache prepared.files).outcomeOf) := by
  have inOrder :
      aggregate frontend options cache =
        aggregateBy (collectScheduled frontend [] cache) frontend options := by
    rw [aggregate_eq]
    congr 1
    funext jobs
    exact (collectScheduled_nil frontend cache jobs).symm
  rw [inOrder]
  constructor
  · cases isPrepared : prepare frontend options world with
    | error failures later => simp only [answerOf_aggregateBy, isPrepared]
    | ok imported prepared =>
        have steady := steady imported prepared isPrepared
        rw [answerOf_scheduled isPrepared steady distinct,
          answerOf_scheduled isPrepared steady distinct]
  · intro imported prepared isPrepared
    exact answerOf_scheduled isPrepared (steady imported prepared isPrepared) distinct []

end Scheduled

/-! ## Names that collide -/

/-- A front end that answers to each source with an empty unit that depends on the source. -/
def sourceFrontend : Frontend where
  fingerprint := "c++17"
  parse source _ world :=
    .ok { unit := { path := source, nodes := #[] }, dependencies := [source] } world
  precompile _ _ := throw (Failure.ofText "no precompiled header")

/-- What the front end answers to a job. -/
def sourceAnswer
    (job : Job) :
    Except Failure ParsedUnit :=
  .ok { unit := { path := job.source, nodes := #[] }, dependencies := [job.source] }

/-- A cache without entries. -/
def freshCache : UsedCache :=
  some { directory := "cache" }

/-- Sources that were written before the run, and the directory of the cache. -/
def sourceWorld
    (sources : List String) :
    World :=
  { files :=
      { entries :=
          (["cache"], .directory 0) :: sources.map fun source => ([source], .file "" 0 false) }
    clock := 5 }

/-- The front end answers alike at all times, and a cache without entries agrees with it. -/
theorem steady_of_no_entry
    {options : RunOptions}
    {files : FileTree}
    (noEntry :
      ∀ job ∈ (workloadOf sourceFrontend sourceAnswer options freshCache files).jobs,
        FragmentCache.entryIn? files
          (FragmentCache.entryPath { directory := "cache" } (job.key "c++17").name) = none) :
    (workloadOf sourceFrontend sourceAnswer options freshCache files).Steady where
  answers _ _ world _ := ⟨world, rfl, rfl⟩
  holds := by
    rintro _ ⟨⟩
    refine ⟨fun job member entry inMemory => ?_, fun job member entry found _ => ?_⟩
    · exact absurd inMemory (by simp)
    · have absent : some entry = none := found.symm.trans (noEntry job member)
      cases absent

/-- The dependencies in an answer, in the order of their sources. -/
def dependenciesIn
    (answer : Except (List Failure) (BindingModel × Keyed (List String))) :
    List (String × List String) :=
  match answer with
  | .ok (_, dependencies) => dependencies.entries
  | .error _ => []

/-- Three inputs, of which two are the same. -/
def repeatedSource : RunOptions :=
  { inputs := ["circle.cpp", "square.cpp", "circle.cpp"] }

/-- A repeated input is found in the cache or parsed twice, by how its jobs take turns, and the
run aggregates the same. -/
theorem aggregate_ignores_schedule_of_repeated_source :
    let world := sourceWorld ["circle.cpp", "square.cpp"]
    let scheduled :=
      answerOf
        (aggregateBy (collectScheduled sourceFrontend [0, 1, 2, 1, 0] freshCache) sourceFrontend
          repeatedSource world)
    (workloadOf sourceFrontend sourceAnswer repeatedSource freshCache world.files).Steady ∧
      NamesDiffer
        (· ∈ (workloadOf sourceFrontend sourceAnswer repeatedSource freshCache world.files).keys) ∧
      scheduled = answerOf (aggregate sourceFrontend repeatedSource freshCache world) ∧
      dependenciesIn scheduled =
        [("circle.cpp", ["circle.cpp"]), ("square.cpp", ["square.cpp"])] := by
  intro world scheduled
  have steady :
      (workloadOf sourceFrontend sourceAnswer repeatedSource freshCache world.files).Steady :=
    steady_of_no_entry (by decide +kernel)
  have eachDiffer :
      ∀ first ∈ (workloadOf sourceFrontend sourceAnswer repeatedSource freshCache world.files).keys,
        ∀ second ∈
            (workloadOf sourceFrontend sourceAnswer repeatedSource freshCache world.files).keys,
          first.name = second.name → first = second := by
    decide +kernel
  have distinct :
      NamesDiffer
        (· ∈ (workloadOf sourceFrontend sourceAnswer repeatedSource freshCache world.files).keys) :=
    fun first second isFirst isSecond => eachDiffer first isFirst second isSecond
  obtain ⟨same, _⟩ :=
    aggregate_ignores_schedule (fun _ _ isPrepared => by cases isPrepared; exact steady) distinct
      [0, 1, 2, 1, 0]
  exact ⟨steady, distinct, same, by decide +kernel⟩

/-- Two sources whose entries have one name. -/
def collidingSources : RunOptions :=
  { inputs := ["geometry_widgets.cpp", "krpbxtqfwifjotcs.cpp"] }

/-- In memory an entry is found by its name alone.  If one job is finished before the other looks
into the cache, the other is served with its fragment; if both look first, each has its own. -/
theorem colliding_names_tell_schedules_apart :
    let world := sourceWorld collidingSources.inputs
    let workload := workloadOf sourceFrontend sourceAnswer collidingSources freshCache world.files
    let alone := answerOf (aggregate sourceFrontend collidingSources freshCache world)
    workload.Steady ∧
      answerOf
          (aggregateBy (collectScheduled sourceFrontend [0, 1] freshCache) sourceFrontend
            collidingSources world) ≠
        alone ∧
      alone ≠ aggregateOf collidingSources .empty (workload.jobs.map workload.outcomeOf) := by
  refine ⟨steady_of_no_entry (by decide +kernel), fun same => ?_, fun same => ?_⟩
  all_goals exact absurd (congrArg dependenciesIn same) (by decide +kernel)

end Run

end BindingStubs
