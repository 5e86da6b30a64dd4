import BindingStubs.Proofs.Cache.Freshness
import BindingStubs.Run.Basic

namespace BindingStubs

/-!
# The pool of workers

The jobs of a run are worked on at the same time, over one cache.  A job looks into the cache,
parses and extracts on a miss, and stores what it found; between these steps any other job may
take steps of its own.  A schedule names the job that takes each step.  The run that takes one job
after the other is the schedule that gives every job all its steps in a row.
-/

/-- How far a job has come. -/
inductive Stage where
  | waiting
  | missed
  | produced (started : Nat) (fragment : Fragment)
  | finished (outcome : Except Failure FoundFragment)

namespace Stage

/-- The outcome of a job that is finished. -/
def outcome? : Stage → Option (Except Failure FoundFragment)
  | .finished outcome => some outcome
  | _ => none

/-- The steps that a job may still have to take. -/
def remaining : Stage → Nat
  | .waiting => 3
  | .missed => 2
  | .produced _ _ => 1
  | .finished _ => 0

end Stage

/-- A job of the pool. -/
structure Task where
  job : Job
  stage : Stage := .waiting

/-- The world and the cache that the jobs share, and the jobs. -/
structure Pool where
  world : World
  cache : UsedCache
  tasks : List Task

namespace Task

/-- The next step of a job.  A job that is finished takes no more steps. -/
def advance
    (frontend : Frontend)
    (task : Task)
    (cache : UsedCache)
    (world : World) :
    Stage × UsedCache × World :=
  match task.stage with
  | .waiting =>
      match cache.get world.files (task.job.key frontend.fingerprint) with
      | (some fragment, after) =>
          (.finished (.ok { source := task.job.source, fragment, isCached := true }), after, world)
      | (none, after) => (.missed, after, world)
  | .missed =>
      match Acting.noting ("while extracting " ++ task.job.source)
          (task.job.produce frontend) world.later with
      | .ok fragment after => (.produced world.clock fragment, cache, after)
      | .error failure after => (.finished (.error failure), cache, after)
  | .produced started fragment =>
      let stored := cache.put (task.job.key frontend.fingerprint) fragment started world
      (.finished (.ok { source := task.job.source, fragment, isCached := false }), stored)
  | .finished outcome => (.finished outcome, cache, world)

end Task

namespace Pool

/-- The pool before any step. -/
def start
    (cache : UsedCache)
    (jobs : List Job)
    (world : World) :
    Pool :=
  { world, cache, tasks := jobs.map fun job => { job } }

/-- A step of the job at an index. -/
def step
    (frontend : Frontend)
    (pool : Pool)
    (index : Nat) :
    Pool :=
  match pool.tasks[index]? with
  | none => pool
  | some task =>
      let (stage, cache, world) := task.advance frontend pool.cache pool.world
      { world, cache, tasks := pool.tasks.set index { task with stage } }

/-- The steps of a schedule. -/
def run
    (frontend : Frontend)
    (pool : Pool)
    (schedule : List Nat) :
    Pool :=
  schedule.foldl (step frontend) pool

/-- The outcomes of the jobs that are finished, in the order of the jobs. -/
def outcomes
    (pool : Pool) :
    List (Except Failure FoundFragment) :=
  pool.tasks.filterMap fun task => task.stage.outcome?

/-- The schedule that gives all their steps to one job after the other. -/
def inOrder
    (first count : Nat) :
    List Nat :=
  (List.range' first count).flatMap (List.replicate 3)

end Pool

/-! ## Every job is finished -/

theorem Task.remaining_advance_le
    (frontend : Frontend)
    (task : Task)
    (cache : UsedCache)
    (world : World) :
    (task.advance frontend cache world).1.remaining ≤ task.stage.remaining - 1 := by
  unfold advance
  cases task.stage with
  | waiting => dsimp only; split <;> simp [Stage.remaining]
  | missed => dsimp only; split <;> simp [Stage.remaining]
  | produced started fragment => simp [Stage.remaining]
  | finished outcome => simp [Stage.remaining]

namespace Pool

/-- A job has at most so many steps to take as it had before the schedule, less its turns. -/
theorem remaining_run_le
    (frontend : Frontend)
    (schedule : List Nat)
    (pool : Pool)
    {index : Nat}
    {task : Task}
    (atIndex : pool.tasks[index]? = some task) :
    ∃ later,
      (pool.run frontend schedule).tasks[index]? = some later ∧
        later.job = task.job ∧
        later.stage.remaining ≤ task.stage.remaining - schedule.count index := by
  induction schedule generalizing pool task with
  | nil => exact ⟨task, atIndex, rfl, Nat.le_refl _⟩
  | cons turn schedule inductionHypothesis =>
      rw [run, List.foldl_cons, ← run, List.count_cons]
      by_cases isTurn : turn = index
      · subst isTurn
        have stepped :
            (pool.step frontend turn).tasks[turn]? =
              some { task with stage := (task.advance frontend pool.cache pool.world).1 } := by
          simp only [step, atIndex]
          rw [List.getElem?_set_self (List.getElem?_eq_some_iff.mp atIndex).1]
        obtain ⟨later, atLater, sameJob, fewer⟩ := inductionHypothesis _ stepped
        have advanced := task.remaining_advance_le frontend pool.cache pool.world
        dsimp only at fewer
        exact ⟨later, atLater, sameJob, by simp only [beq_self_eq_true, if_true]; omega⟩
      · have stepped : (pool.step frontend turn).tasks[index]? = some task := by
          rw [step]
          cases pool.tasks[turn]? with
          | none => exact atIndex
          | some other => exact (List.getElem?_set_ne isTurn).trans atIndex
        obtain ⟨later, atLater, sameJob, fewer⟩ := inductionHypothesis _ stepped
        exact ⟨later, atLater, sameJob, by simpa [isTurn] using fewer⟩

/-- A schedule changes neither the jobs nor their order. -/
theorem map_job_run
    (frontend : Frontend)
    (schedule : List Nat)
    (pool : Pool) :
    (pool.run frontend schedule).tasks.map Task.job = pool.tasks.map Task.job := by
  induction schedule generalizing pool with
  | nil => rfl
  | cons turn schedule inductionHypothesis =>
      rw [run, List.foldl_cons, ← run, inductionHypothesis, step]
      cases atTurn : pool.tasks[turn]? with
      | none => rfl
      | some task =>
          obtain ⟨inRange, isTask⟩ := List.getElem?_eq_some_iff.mp atTurn
          have isThere : turn < (pool.tasks.map Task.job).length := by simpa using inRange
          rw [List.map_set, ← isTask, ← List.getElem_map Task.job (h := isThere),
            List.set_getElem_self]

theorem count_inOrder
    {first count index : Nat}
    (isThere : first ≤ index ∧ index < first + count) :
    (inOrder first count).count index = 3 := by
  induction count generalizing first with
  | zero => omega
  | succ count inductionHypothesis =>
      rw [inOrder, List.range'_succ, List.flatMap_cons, ← inOrder, List.count_append,
        List.count_replicate]
      by_cases isFirst : first = index
      · have absent : (inOrder (first + 1) count).count index = 0 := by
          rw [List.count_eq_zero, inOrder]
          simp only [List.mem_flatMap, List.mem_range'_1, List.mem_replicate, not_exists]
          omega
        simp [isFirst ▸ absent, isFirst]
      · rw [inductionHypothesis (by omega)]
        simp [isFirst]

/-- A schedule that gives three turns to every job finishes them all. -/
theorem exists_outcome_of_turns
    (frontend : Frontend)
    {schedule : List Nat}
    {cache : UsedCache}
    {jobs : List Job}
    {world : World}
    (turns : ∀ index < jobs.length, 3 ≤ schedule.count index) :
    ∀ task ∈ ((start cache jobs world).run frontend schedule).tasks,
      ∃ outcome, task.stage = .finished outcome := by
  intro task member
  obtain ⟨index, atIndex⟩ := List.mem_iff_getElem?.mp member
  have sameLength := congrArg List.length (map_job_run frontend schedule (start cache jobs world))
  simp only [List.length_map, start] at sameLength
  have inRange : index < jobs.length := by
    rw [← sameLength]
    exact (List.getElem?_eq_some_iff.mp atIndex).1
  have atStart : (start cache jobs world).tasks[index]? = some { job := jobs[index] } := by
    simp [start, inRange]
  obtain ⟨later, atLater, _, fewer⟩ := remaining_run_le frontend schedule _ atStart
  rw [atIndex] at atLater
  cases atLater
  have noneLeft : task.stage.remaining = 0 := by
    have enough := turns index inRange
    have atMost : ({ job := jobs[index] } : Task).stage.remaining = 3 := rfl
    omega
  cases stage : task.stage with
  | finished outcome => exact ⟨outcome, rfl⟩
  | waiting => simp [stage, Stage.remaining] at noneLeft
  | missed => simp [stage, Stage.remaining] at noneLeft
  | produced started fragment => simp [stage, Stage.remaining] at noneLeft

/-- When all jobs are finished, further turns change nothing. -/
theorem run_of_finished
    (frontend : Frontend)
    {pool : Pool}
    (areFinished : ∀ task ∈ pool.tasks, ∃ outcome, task.stage = .finished outcome)
    (schedule : List Nat) :
    pool.run frontend schedule = pool := by
  have stays : ∀ index, pool.step frontend index = pool := by
    intro index
    rw [step]
    cases atIndex : pool.tasks[index]? with
    | none => rfl
    | some task =>
        obtain ⟨outcome, isFinished⟩ := areFinished task (List.mem_of_getElem? atIndex)
        have keeps :
            task.advance frontend pool.cache pool.world = (task.stage, pool.cache, pool.world) := by
          rw [Task.advance, isFinished]
        obtain ⟨inRange, isTask⟩ := List.getElem?_eq_some_iff.mp atIndex
        have sameTasks : pool.tasks.set index task = pool.tasks := by
          rw [← isTask, List.set_getElem_self]
        simp only [keeps, sameTasks]
  induction schedule with
  | nil => rfl
  | cons index schedule inductionHypothesis =>
      rw [run, List.foldl_cons, stays, ← run, inductionHypothesis]

/-! ## One job after the other -/

variable
  (frontend : Frontend)
  (world : World)
  (cache : UsedCache)

theorem step_append_cons
    (before after : List Task)
    (task : Task) :
    step frontend { world, cache, tasks := before ++ task :: after } before.length =
      { world := (task.advance frontend cache world).2.2
        cache := (task.advance frontend cache world).2.1
        tasks :=
          before ++ { task with stage := (task.advance frontend cache world).1 } :: after } := by
  simp only [step, List.getElem?_append_right (Nat.le_refl _), Nat.sub_self,
    List.getElem?_cons_zero, List.set_append_right _ _ (Nat.le_refl _), List.set_cons_zero]

/-- The outcome of a job, and what the job leaves behind. -/
def afterJob
    (cache : UsedCache) :
    EStateM.Result Failure World (FoundFragment × UsedCache) →
      Except Failure FoundFragment × UsedCache × World
  | .ok (found, used) after => (.ok found, used, after)
  | .error failure after => (.error failure, cache, after)

/-- Three turns in a row do what a job does that works alone. -/
theorem run_replicate
    (before after : List Task)
    (job : Job) :
    let done :=
      afterJob cache
        (Acting.noting ("while extracting " ++ job.source) (job.fragment frontend cache) world)
    run frontend { world, cache, tasks := before ++ { job } :: after }
        (List.replicate 3 before.length) =
      { world := done.2.2
        cache := done.2.1
        tasks := before ++ { job, stage := .finished done.1 } :: after } := by
  simp only [run, List.replicate, List.foldl_cons, List.foldl_nil, step_append_cons]
  rw [Acting.noting, Job.fragment_eq_of_used]
  rcases looked : cache.get world.files (job.key frontend.fingerprint) with ⟨found, used⟩
  cases found with
  | some found => simp only [Task.advance, looked, afterJob]
  | none =>
      have sameCache : used = cache := by
        cases cache with
        | none =>
            cases looked
            rfl
        | some opened =>
            simp only [UsedCache.get, Prod.mk.injEq] at looked
            rw [← looked.2]
            exact congrArg some (FragmentCache.eq_of_get_eq_none (Prod.ext looked.1 rfl))
      cases isProduced : job.produce frontend world.later with
      | error failure later =>
          simp only [Task.advance, looked, Acting.noting, isProduced, afterJob, sameCache]
      | ok produced later =>
          simp only [Task.advance, looked, Acting.noting, isProduced, afterJob]

/-- The run that takes one job after the other is a schedule of the pool. -/
theorem outcomes_run_inOrder
    (jobs : List Job)
    (before : List Task) :
    let pool :=
      run frontend { world, cache, tasks := before ++ jobs.map fun job => { job } }
        (inOrder before.length jobs.length)
    let alone := Job.outcomes frontend cache jobs world
    pool.outcomes = before.filterMap (fun task => task.stage.outcome?) ++ alone.1 ∧
      pool.world = alone.2 := by
  induction jobs generalizing before cache world with
  | nil => simp [run, inOrder, outcomes, Job.outcomes]
  | cons job jobs inductionHypothesis =>
      have turns :
          inOrder before.length (jobs.length + 1) =
            List.replicate 3 before.length ++ inOrder (before.length + 1) jobs.length := by
        rw [inOrder, List.range'_succ, List.flatMap_cons, ← inOrder]
      have first := run_replicate frontend world cache before (jobs.map fun job => { job }) job
      dsimp only at first ⊢
      rw [List.length_cons, turns, run, List.foldl_append, ← run, ← run, List.map_cons, first]
      rw [Job.outcomes]
      split
      · rename_i found used later isFound
        rw [isFound, afterJob]
        have rest :=
          inductionHypothesis later used (before ++ [{ job, stage := .finished (.ok found) }])
        simpa [Stage.outcome?] using rest
      · rename_i failure later isRefused
        rw [isRefused, afterJob]
        have rest :=
          inductionHypothesis later cache (before ++ [{ job, stage := .finished (.error failure) }])
        simpa [Stage.outcome?] using rest

end Pool

end BindingStubs
