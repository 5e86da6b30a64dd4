import BindingStubs.FilePath
import BindingStubs.Json.Reader
import BindingStubs.Json.Writer
import BindingStubs.Model.Interchange

namespace BindingStubs

/-!
# Artifacts

An artifact holds what a run declared and the files that each of its translation units
depended on.  Later runs import it to resolve references across modules.
-/

/-- The version recorded in artifacts and cache entries. -/
def toolVersion : String := "0.1.0"

/-- The model of a run and the dependencies of its sources, in input order. -/
structure Artifact where
  toolVersion : String
  model : BindingModel
  dependencies : Keyed (List String)
  deriving Repr, DecidableEq

namespace Artifact

/-- What a run declared itself; imported entities are left to the artifacts they came
from. -/
def ofRun
    (model : BindingModel)
    (dependencies : Keyed (List String)) :
    Artifact :=
  { toolVersion := BindingStubs.toolVersion
    model := model.retainLocal
    dependencies }

/-- The artifact as JSON. -/
def encode
    (artifact : Artifact) :
    Json :=
  .object
    [("tool_version", .string artifact.toolVersion),
     ("model", Interchange.encodeModel artifact.model),
     ("dependencies", Interchange.encodeKeyed Json.ofStrings artifact.dependencies)]

/-- The text of an artifact file. -/
def text
    (artifact : Artifact) :
    String :=
  artifact.encode.pretty

/-- Read an artifact from JSON; lookup tables are empty. -/
def decode
    (value : Json) :
    Option Artifact := do
  let record ← Json.record? ["tool_version", "model", "dependencies"] value
  return {
    toolVersion := ← record.required "tool_version" Json.string?
    model := ← record.required "model" Interchange.decodeModel
    dependencies :=
      ← record.required "dependencies" (Interchange.decodeKeyed (Json.list? Json.string?)) }

/-- Read an artifact file and build its lookup tables. -/
def ofText?
    (content : String) :
    Option Artifact := do
  let value ← Json.parse? content.toList
  let artifact ← decode value
  return { artifact with model := artifact.model.reindex }

/-- The model flagged as imported. -/
def importedModel
    (artifact : Artifact) :
    BindingModel :=
  artifact.model.markImported

/-- Every source and every file that one depended on, each once. -/
def allDependencies
    (artifact : Artifact) :
    List String :=
  (artifact.dependencies.entries.flatMap fun entry => entry.1 :: entry.2).foldl
    FilePath.insertNew []

end Artifact

end BindingStubs
