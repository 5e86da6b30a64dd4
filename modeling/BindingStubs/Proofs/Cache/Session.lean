import BindingStubs.Cache.Basic
import BindingStubs.Run.Frontend
import BindingStubs.Extraction.Fragment

namespace BindingStubs

/-!
# Sessions of the cache

Files are written and removed while parses run and the cache is used.  A session holds the files,
the time, the cache and the parses that are running, and a history leads from one session to the
next in steps.
-/

/-! ## Parses -/

/-- What reads of files find: for every path what its first, second and further reads find. -/
abbrev Readings := String → Nat → Except OsError String

/-- What reads find while files stay as they are. -/
def FileTree.readings
    (files : FileTree) :
    Readings :=
  fun path _ => files.read path

/-- Every read finds what stood in one of the trees. -/
def Readings.During
    (readings : Readings)
    (trees : List FileTree) :
    Prop :=
  ∀ path turn, ∃ tree ∈ trees, readings path turn = tree.read path

theorem Readings.During.mono
    {readings : Readings}
    {trees others : List FileTree}
    (during : readings.During trees)
    (areAmong : trees ⊆ others) :
    readings.During others := by
  intro path turn
  obtain ⟨tree, isAmong, isRead⟩ := during path turn
  exact ⟨tree, areAmong isAmong, isRead⟩

/-- A parse, as a function of the way of parsing and of what its reads find. -/
abbrev Parse := CacheKey → Readings → Except Failure ParsedUnit

namespace Parse

/-- The fragment that is extracted from a parse. -/
def fragment?
    (parse : Parse)
    (key : CacheKey)
    (readings : Readings) :
    Option Fragment :=
  match parse key readings with
  | .error _ => none
  | .ok parsed =>
      match Extraction.extract parsed.unit with
      | .error _ => none
      | .ok model => some { model, dependencies := parsed.dependencies }

theorem fragment?_eq_some_iff
    {parse : Parse}
    {key : CacheKey}
    {readings : Readings}
    {fragment : Fragment} :
    parse.fragment? key readings = some fragment ↔
      ∃ parsed,
        parse key readings = .ok parsed ∧
          Extraction.extract parsed.unit = .ok fragment.model ∧
          fragment.dependencies = parsed.dependencies := by
  obtain ⟨model, dependencies⟩ := fragment
  unfold fragment?
  cases parse key readings with
  | error failure => simp
  | ok parsed =>
      cases extracted : Extraction.extract parsed.unit with
      | error fault => simp [extracted]
      | ok found => simp [extracted, eq_comm]

end Parse

/-! ## Sessions -/

/-- The files and the time at one moment. -/
structure Moment where
  files : FileTree
  clock : Nat

/-- A parse that has started, and the files as they have stood since. -/
structure RunningParse where
  key : CacheKey
  started : Nat
  seen : List FileTree

/-- The files, the time and the cache at one moment, and the parses that are running. -/
structure Session extends Moment where
  cache : FragmentCache
  running : List RunningParse := []

section Sessions

variable
  (parse : Parse)
  (used : CacheKey → Prop)

/-- The names of keys that are in use do not collide. -/
def NamesDiffer : Prop :=
  ∀ first second : CacheKey,
    used first → used second → first.name = second.name → first = second

/-- Writing a text to a path would pass it off as the entry of a key that is in use. -/
def Forges
    (directory : String)
    (files : FileTree)
    (path content : String) :
    Prop :=
  (CacheEntry.ofText? content).isSome ∧
    ∃ key names,
      used key ∧ files.locate path = .ok names ∧
        files.locate (FragmentCache.entryPath { directory } key.name) = .ok names

/-- What happens outside the cache: time passes, a file is written at the current time, or a file
is removed. -/
inductive Moment.Follows
    (directory : String) : Moment → Moment → Prop where
  | wait {moment : Moment} (duration : Nat) :
      Follows directory moment { moment with clock := moment.clock + duration }
  | write {moment : Moment} {files : FileTree} (path content : String) :
      moment.files.write path content moment.clock = .ok files →
      ¬ Forges used directory moment.files path content →
      Follows directory moment { moment with files }
  | remove {moment : Moment} {files : FileTree} (path : String) :
      moment.files.remove path = .ok files →
      Follows directory moment { moment with files }

namespace Session

/-- The session at another moment, whose files every running parse sees. -/
def movedTo
    (session : Session)
    (moment : Moment) :
    Session :=
  { session with
    toMoment := moment
    running :=
      session.running.map fun running => { running with seen := moment.files :: running.seen } }

/-- The session in which a parse has started, and sees the files as they stand. -/
def starting
    (session : Session)
    (key : CacheKey) :
    Session :=
  { session with
    running := { key, started := session.clock, seen := [session.files] } :: session.running }

/-- The session after a parse that was running has stored its fragment. -/
def stored
    (session : Session)
    (finished : RunningParse)
    (others : List RunningParse)
    (fragment : Fragment) :
    Session :=
  let put := session.cache.put session.files session.clock finished.key fragment finished.started
  movedTo { session with cache := put.1, running := others }
    { session.toMoment with files := put.2 }

/-- What happens in a session.  Beside what happens outside the cache, it is searched for a key, a
parse starts, a running parse stores its fragment or is given up, and the cache is opened again,
with nothing in memory, over a directory that is there. -/
inductive Step : Session → Session → Prop where
  | outside {session : Session} {moment : Moment} :
      Moment.Follows used session.cache.directory session.toMoment moment →
      Step session (session.movedTo moment)
  | search {session : Session} (key : CacheKey) :
      used key →
      Step session { session with cache := (session.cache.get session.files key).2 }
  | start {session : Session} (key : CacheKey) :
      used key →
      Step session (session.starting key)
  | store
      {session : Session}
      {before after : List RunningParse}
      {finished : RunningParse}
      {readings : Readings}
      {fragment : Fragment} :
      session.running = before ++ finished :: after →
      readings.During finished.seen →
      parse.fragment? finished.key readings = some fragment →
      Step session (session.stored finished (before ++ after) fragment)
  | giveUp {session : Session} {before after : List RunningParse} {ended : RunningParse} :
      session.running = before ++ ended :: after →
      Step session { session with running := before ++ after }
  | reopen {session : Session} {cache : FragmentCache} :
      FragmentCache.openAt session.cache.directory session.files session.clock =
        (cache, session.files) →
      Step session { session with cache }

/-- Nothing is in memory, no parse is running, and no file passes for an entry that is in use. -/
structure Initial
    (session : Session) : Prop where
  memory : session.cache.memory = .empty
  running : session.running = []
  noEntry :
    ∀ key,
      used key →
      FragmentCache.entryIn? session.files (session.cache.entryPath key.name) = none

/-- The sessions that histories lead to. -/
inductive Reachable : Session → Prop where
  | initial {session : Session} : Initial used session → Reachable session
  | step {session next : Session} :
      Reachable session → Step parse used session next → Reachable next

end Session

end Sessions

end BindingStubs
