import BindingStubs.Compiler.Options
import BindingStubs.Run.Options

namespace BindingStubs

/-!
# Configurations

A configuration holds the settings of a project.  Each has a name under which it stands in a
file, and one of four kinds: a list of texts, or an optional text, number or flag.
-/

/-- The settings of a project. -/
structure Config where
  inputs : List String := []
  includeDirectories : List String := []
  defines : List String := []
  extraArguments : List String := []
  outputDirectory : Option String := none
  package : Option String := none
  imports : List String := []
  artifact : Option String := none
  jobs : Option Nat := none
  parseOnly : Option Bool := none
  precompiled : Option String := none
  firstIsPrecompiled : Option Bool := none
  compiler : Option String := none
  standard : Option String := none
  cacheDirectory : Option String := none
  noCache : Option Bool := none
  postFormat : Option String := none
  exclude : List String := []
  deriving Repr, DecidableEq, Inhabited

/-- The value of a setting. -/
inductive Setting where
  | texts (items : List String)
  | text (value : Option String)
  | count (value : Option Nat)
  | flag (value : Option Bool)
  deriving Repr, DecidableEq

/-- A form in which settings are given by name.  Each function answers nothing where the
setting has the wrong form. -/
structure SettingSource where
  texts : String → Option (List String)
  text : String → Option (Option String)
  count : String → Option (Option Nat)
  flag : String → Option (Option Bool)

namespace Config

/-- The names of the settings in the order in which they are written. -/
def names : List String :=
  ["inputs", "include_dirs", "defines", "extra_args", "output_dir", "package_prefix", "imports",
   "export", "jobs", "parse_only", "prefix", "first_is_prefix", "clang", "std", "cache_dir",
   "no_cache", "post_format", "exclude"]

/-- The settings in the order of their names. -/
def values
    (config : Config) :
    List Setting :=
  [.texts config.inputs, .texts config.includeDirectories, .texts config.defines,
   .texts config.extraArguments, .text config.outputDirectory, .text config.package,
   .texts config.imports, .text config.artifact, .count config.jobs, .flag config.parseOnly,
   .text config.precompiled, .flag config.firstIsPrecompiled, .text config.compiler,
   .text config.standard, .text config.cacheDirectory, .flag config.noCache,
   .text config.postFormat, .texts config.exclude]

/-- The settings with their names. -/
def settings
    (config : Config) :
    List (String × Setting) :=
  names.zip config.values

/-- Take every setting from a source. -/
def ofSource?
    (source : SettingSource) :
    Option Config := do
  return {
    inputs := ← source.texts "inputs"
    includeDirectories := ← source.texts "include_dirs"
    defines := ← source.texts "defines"
    extraArguments := ← source.texts "extra_args"
    outputDirectory := ← source.text "output_dir"
    package := ← source.text "package_prefix"
    imports := ← source.texts "imports"
    artifact := ← source.text "export"
    jobs := ← source.count "jobs"
    parseOnly := ← source.flag "parse_only"
    precompiled := ← source.text "prefix"
    firstIsPrecompiled := ← source.flag "first_is_prefix"
    compiler := ← source.text "clang"
    standard := ← source.text "std"
    cacheDirectory := ← source.text "cache_dir"
    noCache := ← source.flag "no_cache"
    postFormat := ← source.text "post_format"
    exclude := ← source.texts "exclude" }

/-- The configuration that a new project starts with. -/
def starter : Config :=
  { inputs := ["bindings"]
    outputDirectory := some "stubs"
    jobs := some 0
    parseOnly := some false
    firstIsPrecompiled := some false
    standard := some "c++17"
    noCache := some false
    exclude := ["**/test/**"] }

/-- Whether fragments are kept between runs. -/
def cacheEnabled
    (config : Config) :
    Bool :=
  !config.noCache.getD false

/-- The compiler and its flags. -/
def compilerOptions
    (config : Config) :
    CompilerOptions :=
  let options : CompilerOptions :=
    { standard := config.standard
      includeDirectories := config.includeDirectories
      defines := config.defines
      extraArguments := config.extraArguments }
  match config.compiler with
  | some executable => { options with executable := executable }
  | none => options

/-- The options of a run over some inputs.  Where no cache directory is set, the directory
of the user is taken. -/
def runOptions
    (config : Config)
    (userCache : Option String)
    (inputs : List String) :
    RunOptions :=
  { inputs := inputs
    outputDirectory := config.outputDirectory
    package := config.package
    imports := config.imports
    artifact := config.artifact
    jobs := config.jobs.getD 0
    parseOnly := config.parseOnly.getD false
    precompiled := config.precompiled
    firstIsPrecompiled := config.firstIsPrecompiled.getD false
    cacheDirectory :=
      if config.cacheEnabled then config.cacheDirectory.or userCache else none
    postFormat := config.postFormat }

end Config

end BindingStubs
