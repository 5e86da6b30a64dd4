import BindingStubs.Cache.Basic
import BindingStubs.Extraction.Fragment
import BindingStubs.Run.Frontend

namespace BindingStubs

/-!
# The fragments of a run

Every input yields a fragment, from the cache or from a parse.  A worker looks into the
cache, parses and extracts on a miss, and stores what it found.  All inputs are tried, also
when some fail.
-/

/-- An input, and the precompiled header that it is parsed on top of. -/
structure Job where
  source : String
  precompiled : Option String := none
  deriving Repr, DecidableEq

namespace Job

/-- The key of a job in the cache. -/
def key
    (job : Job)
    (fingerprint : String) :
    CacheKey :=
  { source := job.source, fingerprint, precompiled := job.precompiled }

/-- The jobs of a run.  The source of the precompiled header is not parsed on top of it. -/
def ofInputs
    (inputs : List String)
    (precompiled : Option String)
    (firstIsPrecompiled : Bool) :
    List Job :=
  match inputs with
  | [] => []
  | first :: rest =>
      { source := first, precompiled := if firstIsPrecompiled then none else precompiled }
        :: rest.map fun source => { source, precompiled }

/-- Parse an input and extract its fragment. -/
def produce
    (job : Job)
    (frontend : Frontend) :
    Acting Fragment := do
  Acting.request (.parse job.source job.precompiled)
  let parsed ← frontend.parse job.source job.precompiled
  match Extraction.extract parsed.unit with
  | .error fault => throw (Failure.ofFault fault)
  | .ok model => return { model, dependencies := parsed.dependencies }

end Job

/-- The fragment of an input, and whether it came from the cache. -/
structure FoundFragment where
  source : String
  fragment : Fragment
  isCached : Bool
  deriving Repr, DecidableEq

/-- A cache, if one is in use. -/
abbrev UsedCache := Option FragmentCache

namespace UsedCache

/-- Look for a fresh fragment of a job. -/
def get
    (cache : UsedCache)
    (files : FileTree)
    (key : CacheKey) :
    Option Fragment × UsedCache :=
  match cache with
  | none => (none, none)
  | some used =>
      let (found, after) := used.get files key
      (found, some after)

/-- Store the fragment of a job. -/
def put
    (cache : UsedCache)
    (key : CacheKey)
    (fragment : Fragment)
    (parsedAt : Nat)
    (world : World) :
    UsedCache × World :=
  match cache with
  | none => (none, world)
  | some used =>
      let (after, files) := used.put world.files world.clock key fragment parsedAt
      (some after, { world.later with files })

end UsedCache

namespace Job

/-- The fragment of one job: a fresh one from the cache, or else that of a parse, which is
stored with the time when the parse started. -/
def fragment
    (job : Job)
    (frontend : Frontend)
    (cache : UsedCache) :
    Acting (FoundFragment × UsedCache) := do
  let key := job.key frontend.fingerprint
  match cache.get (← get).files key with
  | (some found, after) =>
      return ({ source := job.source, fragment := found, isCached := true }, after)
  | (none, after) =>
      let started := (← get).clock
      modify World.later
      let produced ← job.produce frontend
      let (stored, world) := after.put key produced started (← get)
      set world
      return ({ source := job.source, fragment := produced, isCached := false }, stored)

/-- The outcomes of all jobs, in their order. -/
def outcomes
    (frontend : Frontend) :
    UsedCache → List Job → World → List (Except Failure FoundFragment) × World
  | _, [], world => ([], world)
  | cache, job :: rest, world =>
      match Acting.noting ("while extracting " ++ job.source) (job.fragment frontend cache) world with
      | .ok (found, used) after =>
          let (others, last) := outcomes frontend used rest after
          (.ok found :: others, last)
      | .error failure after =>
          let (others, last) := outcomes frontend cache rest after
          (.error failure :: others, last)

end Job

/-- The failures among outcomes. -/
def failuresOf
    {Value : Type}
    (outcomes : List (Except Failure Value)) :
    List Failure :=
  outcomes.filterMap fun outcome =>
    match outcome with
    | .ok _ => none
    | .error failure => some failure

/-- The values among outcomes. -/
def valuesOf
    {Value : Type}
    (outcomes : List (Except Failure Value)) :
    List Value :=
  outcomes.filterMap fun outcome =>
    match outcome with
    | .ok value => some value
    | .error _ => none

end BindingStubs
