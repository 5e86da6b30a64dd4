import BindingStubs.MakeRule
import BindingStubs.Model.Merge
import BindingStubs.Model.Naming
import BindingStubs.PostFormatter
import BindingStubs.Program
import BindingStubs.Report
import BindingStubs.Run.Fragments
import BindingStubs.Run.Options
import BindingStubs.Stub.Emission

namespace BindingStubs

/-!
# Runs

A run loads imported artifacts, builds the precompiled header if asked to, collects the
fragment of every input, merges them in the order of the inputs, assigns names, and then
exports the artifact and emits the stubs.  When inputs fail to extract, all their failures
are reported and nothing is merged; any other failure ends the run alone.
-/

/-- An action of a run.  It may fail for several reasons at once. -/
abbrev Running := EStateM (List Failure) World

/-- An action that fails for one reason. -/
def Acting.alone
    {Value : Type}
    (action : Acting Value) :
    Running Value :=
  fun world =>
    match action world with
    | .ok value after => .ok value after
    | .error failure after => .error [failure] after

/-- The merged model of a run, the dependencies of its inputs, and the number of fragments
that came from the cache. -/
structure Aggregate where
  model : BindingModel
  dependencies : Keyed (List String)
  cached : Nat
  deriving Repr

/-- What a successful run leaves: its counts and what it prints. -/
structure RunResult where
  summary : RunSummary
  printed : String := ""
  deriving Repr

namespace Run

/-- Change a model by registrations, or fail with a note. -/
def registering
    (note : String)
    (action : Registering Unit)
    (model : BindingModel) :
    Except Failure BindingModel :=
  match action model with
  | .ok _ changed => .ok changed
  | .error fault _ => .error ((Failure.ofFault fault).withNote note)

/-- Load an artifact. -/
def loadArtifact
    (path : String) :
    Acting Artifact := do
  let content ← Acting.noting ("reading artifact " ++ path) (Acting.read path)
  match Artifact.ofText? content with
  | some artifact => return artifact
  | none =>
      throw (Failure.withNote { cause := .malformedJson } ("parsing artifact " ++ path))

/-- Merge imported artifacts into a model, in order. -/
def loadImports :
    List String → BindingModel → Acting BindingModel
  | [], model => return model
  | path :: rest, model => do
      let artifact ← loadArtifact path
      let merged ← Acting.ofExcept
        (registering ("while importing " ++ path) (BindingModel.merge artifact.importedModel) model)
      loadImports rest merged

/-- The rule file of an output. -/
def rulePath
    (path : String) :
    String :=
  path ++ ".d"

/-- Write the rule that makes an output depend on files. -/
def writeRule
    (path : String)
    (dependencies : List String) :
    Acting Unit :=
  Acting.noting ("writing the dependency file of " ++ path)
    (Acting.write (rulePath path) (MakeRule.text path dependencies))

/-- Build the precompiled header from the first input. -/
def buildPrecompiled
    (frontend : Frontend)
    (inputs : List String)
    (output : String) :
    Acting Unit :=
  match inputs with
  | [] => throw (Failure.ofText "no input to build the precompiled prefix from")
  | source :: _ => do
      Acting.request (.precompile source output)
      let dependencies ← Acting.noting ("while building the precompiled prefix " ++ output)
        (frontend.precompile source output)
      writeRule output dependencies

/-- Make the precompiled header ready, if there is one. -/
def preparePrecompiled
    (frontend : Frontend)
    (options : RunOptions) :
    Acting Unit :=
  if options.firstIsPrecompiled then
    match options.precompiled with
    | some output => buildPrecompiled frontend options.inputs output
    | none =>
        throw
          (Failure.ofText "the first input is marked as prefix but no prefix path is set")
  else return

/-- Open the cache that the options name. -/
def openCache
    (options : RunOptions)
    (world : World) :
    UsedCache × World :=
  match options.cacheDirectory with
  | none => (none, world)
  | some directory =>
      let (cache, files) := FragmentCache.openAt directory world.files world.clock
      (some cache, { world.later with files })

/-- The fragments of all inputs, or the failures of those that have none. -/
def collectFragments
    (frontend : Frontend)
    (cache : UsedCache)
    (jobs : List Job) :
    Running (List FoundFragment) :=
  fun world =>
    let (outcomes, after) := Job.outcomes frontend cache jobs world
    match failuresOf outcomes with
    | [] => .ok (valuesOf outcomes) after
    | failures => .error failures after

/-- Merge fragments into a model, in order. -/
def mergeFragments :
    List FoundFragment → BindingModel → Except Failure BindingModel
  | [], model => .ok model
  | found :: rest, model =>
      match registering ("while merging the registrations of " ++ found.source)
          (BindingModel.merge found.fragment.model) model with
      | .error failure => .error failure
      | .ok merged => mergeFragments rest merged

/-- Merge everything that a run knows and assign names. -/
def aggregate
    (frontend : Frontend)
    (options : RunOptions)
    (cache : UsedCache) :
    Running Aggregate := do
  let imported ← (loadImports options.imports .empty).alone
  (preparePrecompiled frontend options).alone
  let fragments ← collectFragments frontend cache
    (Job.ofInputs options.inputs options.precompiled options.firstIsPrecompiled)
  let merged ← (Acting.ofExcept (mergeFragments fragments imported)).alone
  let named ← (Acting.ofExcept
    (registering "while assigning fully-qualified names"
      (BindingModel.assignNames options.package) merged)).alone
  return {
    model := named
    dependencies :=
      Keyed.ofList (fragments.map fun found => (found.source, found.fragment.dependencies))
    cached := fragments.countP FoundFragment.isCached }

/-- Write the artifact of a run, and the rule that rebuilds it. -/
def exportArtifact
    (path : String)
    (aggregate : Aggregate)
    (further : List String) :
    Acting Unit := do
  let artifact := Artifact.ofRun aggregate.model aggregate.dependencies
  Acting.makeParent path
  Acting.noting ("writing artifact " ++ path) (Acting.write path artifact.text)
  writeRule path (further.foldl FilePath.insertNew artifact.allDependencies)

/-- Write stubs below a directory; answers their paths. -/
def writeStubs
    (directory : String) :
    List Stub → Acting (List String)
  | [] => return []
  | stub :: rest => do
      let path := stub.pathBelow directory
      Acting.makeParent path
      Acting.noting ("writing " ++ path) (Acting.write path stub.text)
      let others ← writeStubs directory rest
      return path :: others

/-- Run a formatter on files; counts the runs that fail. -/
def formatAll
    (formatter : PostFormatter) :
    List String → World → Nat × World
  | [], world => (0, world)
  | path :: rest, world =>
      let (result, after) :=
        Program.run formatter.program (formatter.arguments ++ [path]) world
      let failed :=
        match result with
        | .ok output => output.status != 0
        | .error _ => true
      let (others, last) := formatAll formatter rest after
      ((if failed then 1 else 0) + others, last)

/-- Run the formatter of the options, if there is one. -/
def format
    (command : Option String)
    (written : List String) :
    Acting Nat :=
  match command.bind PostFormatter.parse? with
  | none => return 0
  | some formatter => fun world =>
      let (failures, after) := formatAll formatter written world
      .ok failures after

/-- The counts of an aggregate. -/
def counts
    (options : RunOptions)
    (aggregate : Aggregate) :
    RunSummary :=
  let model := aggregate.model
  { files := options.inputs.length
    cached := aggregate.cached
    modules := model.modules.countP fun entity => !entity.imported
    classes := model.classes.countP fun entity => !entity.imported
    enums := model.enums.countP fun entity => !entity.imported
    rules := model.allRules.length }

/-- Emit the stubs of a model: into files, or as text to print. -/
def emit
    (options : RunOptions)
    (model : BindingModel)
    (summary : RunSummary) :
    Acting RunResult := do
  let stubs ← Acting.ofExcept (Emission.renderAll model)
  match options.outputDirectory with
  | none =>
      let _ ← format options.postFormat []
      return { summary, printed := Emission.print stubs }
  | some directory =>
      let written ← writeStubs directory stubs
      let failures ← format options.postFormat written
      return { summary := { summary with written, formatFailures := failures } }

/-- Perform a run.  The executable of the tool is what an artifact depends on besides the
files of its sources. -/
def perform
    (frontend : Frontend)
    (options : RunOptions)
    (executable : String) :
    Running RunResult := fun world =>
  let (cache, opened) := openCache options world
  let steps : Running RunResult := do
    let aggregate ← aggregate frontend options cache
    let summary := counts options aggregate
    match options.artifact with
    | some path =>
        (exportArtifact path aggregate (options.precompiled.toList ++ [executable])).alone
    | none => pure ()
    if options.parseOnly then return { summary }
    else (emit options aggregate.model summary).alone
  steps opened

end Run

end BindingStubs
