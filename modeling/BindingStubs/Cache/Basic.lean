import BindingStubs.Cache.Entry
import BindingStubs.Text.Utf8
import BindingStubs.Xxh64

namespace BindingStubs

/-!
# The fragment cache

The cache keeps one entry for each way of parsing a source: the source, the fingerprint of
the compiler options and the precompiled header.  Entries stand in files below a directory
and, for the current run, in memory.  Files that cannot be written or read are passed over.
-/

/-- A way of parsing a source. -/
structure CacheKey where
  source : String
  fingerprint : String
  precompiled : Option String
  deriving Repr, DecidableEq

namespace CacheKey

/-- The three parts of a key as one text. -/
def identity
    (key : CacheKey) :
    String :=
  key.source ++ "\x00" ++ key.fingerprint ++ "\x00" ++ key.precompiled.getD ""

/-- The name under which the entry of a key stands. -/
def name
    (key : CacheKey) :
    String :=
  Xxh64.text (Xxh64.hash (Text.encodeUtf8 key.identity.toList))

end CacheKey

/-- Entries below a directory, and those of the current run. -/
structure FragmentCache where
  directory : String
  memory : Keyed CacheEntry := .empty
  deriving Repr, DecidableEq

namespace FragmentCache

/-- A cache over a directory, which is created if possible. -/
def openAt
    (directory : String)
    (files : FileTree)
    (now : Nat) :
    FragmentCache × FileTree :=
  ({ directory }, (files.makeDirectories directory now).toOption.getD files)

/-- The file of an entry. -/
def entryPath
    (cache : FragmentCache)
    (name : String) :
    String :=
  FilePath.join cache.directory (name ++ ".json")

/-- The fresh entry of a key in memory. -/
def fromMemory?
    (cache : FragmentCache)
    (files : FileTree)
    (key : CacheKey) :
    Option CacheEntry :=
  (cache.memory.get? key.name).filter fun entry => entry.isFresh files key.precompiled

/-- The entry that is read from a file. -/
def entryIn?
    (files : FileTree)
    (path : String) :
    Option CacheEntry :=
  match files.read path with
  | .error _ => none
  | .ok content => CacheEntry.ofText? content

/-- The fresh entry of a key in its file; it must be of the same source. -/
def fromFile?
    (cache : FragmentCache)
    (files : FileTree)
    (key : CacheKey) :
    Option CacheEntry :=
  (entryIn? files (cache.entryPath key.name)).filter fun entry =>
    FilePath.same entry.source key.source && entry.isFresh files key.precompiled

/-- Look for a fresh fragment.  One found in a file is kept in memory. -/
def get
    (cache : FragmentCache)
    (files : FileTree)
    (key : CacheKey) :
    Option Fragment × FragmentCache :=
  match cache.fromMemory? files key with
  | some entry => (some entry.fragment, cache)
  | none =>
      match cache.fromFile? files key with
      | some entry =>
          (some entry.fragment, { cache with memory := cache.memory.insert key.name entry })
      | none => (none, cache)

/-- Write the file of an entry, if possible. -/
def writeEntry
    (cache : FragmentCache)
    (files : FileTree)
    (now : Nat)
    (name : String)
    (entry : CacheEntry) :
    FileTree :=
  (files.write (cache.entryPath name) entry.text now).toOption.getD files

/-- Store the fragment of a parse that started at a time. -/
def put
    (cache : FragmentCache)
    (files : FileTree)
    (now : Nat)
    (key : CacheKey)
    (fragment : Fragment)
    (parsedAt : Nat) :
    FragmentCache × FileTree :=
  let entry : CacheEntry :=
    { toolVersion := toolVersion, source := key.source, parsedAt, fragment }
  ({ cache with memory := cache.memory.insert key.name entry },
   cache.writeEntry files now key.name entry)

end FragmentCache

end BindingStubs
