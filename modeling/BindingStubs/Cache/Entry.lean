import BindingStubs.Artifact
import BindingStubs.FileTree

namespace BindingStubs

/-!
# Cache entries

A cache entry keeps the fragment that a parse produced and when the parse started.  It is
fresh while this version of the tool wrote it and every file that the parse read was last
changed before the parse started.
-/

/-- What a translation unit declares, and the files that it depended on. -/
structure Fragment where
  model : BindingModel
  dependencies : List String
  deriving Repr, DecidableEq

/-- The fragment of a source and the time when its parse started, in nanoseconds since the start of
1970.  An entry file has 64 bits for the time, which no current time exceeds: the limit is reached in
the year 2554. -/
structure CacheEntry where
  toolVersion : String
  source : String
  parsedAt : Nat
  fragment : Fragment
  deriving Repr, DecidableEq

namespace CacheEntry

/-- The files that the parse of an entry read. -/
def filesRead
    (entry : CacheEntry)
    (precompiled : Option String) :
    List String :=
  entry.source :: (entry.fragment.dependencies ++ precompiled.toList)

/-- Whether a file was last changed before a time; an absent file was not. -/
def isOlder
    (files : FileTree)
    (time : Nat)
    (path : String) :
    Bool :=
  match files.modified? path with
  | some modified => modified < time
  | none => false

/-- Whether an entry is fresh. -/
def isFresh
    (files : FileTree)
    (precompiled : Option String)
    (entry : CacheEntry) :
    Bool :=
  entry.toolVersion == BindingStubs.toolVersion
    && (entry.filesRead precompiled).all (isOlder files entry.parsedAt)

/-- A fragment as JSON. -/
def encodeFragment
    (fragment : Fragment) :
    Json :=
  .object
    [("model", Interchange.encodeModel fragment.model),
     ("dependencies", .ofStrings fragment.dependencies)]

/-- Read a fragment from JSON; lookup tables are empty. -/
def decodeFragment
    (value : Json) :
    Option Fragment := do
  let record ← Json.record? ["model", "dependencies"] value
  return {
    model := ← record.required "model" Interchange.decodeModel
    dependencies := ← record.required "dependencies" (Json.list? Json.string?) }

/-- An entry as JSON. -/
def encode
    (entry : CacheEntry) :
    Json :=
  .object
    [("tool_version", .string entry.toolVersion),
     ("source", .string entry.source),
     ("parsed_at", .ofNat entry.parsedAt),
     ("fragment", encodeFragment entry.fragment)]

/-- Read an entry from JSON. -/
def decode
    (value : Json) :
    Option CacheEntry := do
  let record ← Json.record? ["tool_version", "source", "parsed_at", "fragment"] value
  return {
    toolVersion := ← record.required "tool_version" Json.string?
    source := ← record.required "source" Json.string?
    parsedAt := ← record.required "parsed_at" (Json.below? (Width.limit 64))
    fragment := ← record.required "fragment" decodeFragment }

/-- The text of an entry file. -/
def text
    (entry : CacheEntry) :
    String :=
  entry.encode.compact

/-- Read an entry file and build the lookup tables of its model. -/
def ofText?
    (content : String) :
    Option CacheEntry := do
  let value ← Json.parse? content.toList
  let entry ← decode value
  return { entry with fragment := { entry.fragment with model := entry.fragment.model.reindex } }

end CacheEntry

end BindingStubs
