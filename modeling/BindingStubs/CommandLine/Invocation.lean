import BindingStubs.CommandLine.Argument
import BindingStubs.Config.Basic

namespace BindingStubs

/-!
# Invocations

The tool has two commands.  One generates stubs; its options overlay those of the
configuration file: lists extend, single values replace.  The other writes a configuration
to start a project with.
-/

/-- The options of the command that generates stubs. -/
structure GenerateOptions where
  /-- The settings given on the command line. -/
  settings : Config := {}
  configFile : Option String := none
  isQuiet : Bool := false
  deriving Repr, DecidableEq, Inhabited

/-- A command of the tool. -/
inductive Command where
  | generate (options : GenerateOptions)
  | startProject (output : String)
  deriving Repr, DecidableEq

/-- A command and whether diagnostics are wanted. -/
structure Invocation where
  command : Command
  isVerbose : Bool
  deriving Repr, DecidableEq

namespace Config

/-- The configuration with the settings of another one laid over it. -/
def overlaid
    (config settings : Config) :
    Config :=
  { inputs := config.inputs ++ settings.inputs
    includeDirectories := config.includeDirectories ++ settings.includeDirectories
    defines := config.defines ++ settings.defines
    extraArguments := config.extraArguments ++ settings.extraArguments
    outputDirectory := settings.outputDirectory.or config.outputDirectory
    package := settings.package.or config.package
    imports := config.imports ++ settings.imports
    artifact := settings.artifact.or config.artifact
    jobs := settings.jobs.or config.jobs
    parseOnly := settings.parseOnly.or config.parseOnly
    precompiled := settings.precompiled.or config.precompiled
    firstIsPrecompiled := settings.firstIsPrecompiled.or config.firstIsPrecompiled
    compiler := settings.compiler.or config.compiler
    standard := settings.standard.or config.standard
    cacheDirectory := settings.cacheDirectory.or config.cacheDirectory
    noCache := settings.noCache.or config.noCache
    postFormat := settings.postFormat.or config.postFormat
    exclude := config.exclude ++ settings.exclude }

end Config

namespace Invocation

/-- The option that asks for help. -/
def helpOption : OptionSpec :=
  { setting := "help", long := "help", letter := some 'h', kind := .help }

/-- The option that asks for the version. -/
def versionOption : OptionSpec :=
  { setting := "version", long := "version", letter := some 'V', kind := .version }

/-- The option that asks for diagnostics. -/
def verboseOption : OptionSpec :=
  { setting := "verbose", long := "verbose", letter := some 'v', kind := .flag }

/-- The option for the path that is written to. -/
def outputOption : OptionSpec :=
  { setting := "output_dir", long := "output", letter := some 'o', kind := .single .path }

/-- What stands before a command. -/
def toolGrammar : Grammar :=
  { options := [helpOption, versionOption, verboseOption]
    commands := ["generate", "gen", "init", "help"] }

/-- The grammar of the command that generates stubs. -/
def generateGrammar : Grammar :=
  { options :=
      [helpOption, verboseOption, outputOption,
       { setting := "config_file", long := "config", letter := some 'c', kind := .single .path },
       { setting := "include_dirs", long := "include", letter := some 'I',
         kind := .repeated .path },
       { setting := "defines", long := "define", letter := some 'D', kind := .repeated .text },
       { setting := "extra_args", long := "extra-arg", kind := .repeated .text,
         takesHyphens := true },
       { setting := "package_prefix", long := "package", letter := some 'p',
         kind := .single .text },
       { setting := "imports", long := "import", kind := .repeated .path },
       { setting := "export", long := "export", kind := .single .path },
       { setting := "jobs", long := "jobs", letter := some 'j', kind := .single .count },
       { setting := "parse_only", long := "parse-only", kind := .flag },
       { setting := "prefix", long := "prefix", kind := .single .path },
       { setting := "first_is_prefix", long := "first-is-prefix", kind := .flag },
       { setting := "clang", long := "clang", kind := .single .text },
       { setting := "std", long := "std", kind := .single .text },
       { setting := "cache_dir", long := "cache-dir", kind := .single .path },
       { setting := "no_cache", long := "no-cache", kind := .flag },
       { setting := "post_format", long := "post-format", kind := .single .text },
       { setting := "exclude", long := "exclude", kind := .repeated .text },
       { setting := "quiet", long := "quiet", letter := some 'q', kind := .flag }]
    inputs := some { setting := "inputs", long := "", kind := .repeated .path } }

/-- The grammar of the command that starts a project. -/
def startGrammar : Grammar :=
  { options := [helpOption, verboseOption, outputOption] }

/-- The settings among recognized arguments. -/
def settingSource
    (arguments : Arguments) :
    SettingSource :=
  { texts := fun name => some (arguments.values name)
    text := fun name => some (arguments.values name).head?
    count := fun name =>
      some ((arguments.values name).head?.bind fun value =>
        Text.readNat? (Width.limit 64) value.toList)
    flag := fun name => some (if arguments.has name then some true else none) }

/-- The options of the command that generates stubs. -/
def generateOptions
    (arguments : Arguments) :
    GenerateOptions :=
  { settings := (Config.ofSource? (settingSource arguments)).getD {}
    configFile := (arguments.values "config_file").head?
    isQuiet := arguments.has "quiet" }

/-- Answer a request for help on a command. -/
def answerHelp : List String → UsageError
  | [] => .helpRequested
  | [command] =>
      if toolGrammar.commands.contains command then .helpRequested else .unknownCommand
  | _ => .unknownCommand

/-- Read the arguments of a command; what stood before it has been recognized. -/
def readCommand
    (before : Arguments)
    (name : String)
    (rest : List String) :
    Except UsageError Invocation :=
  if name == "help" then .error (answerHelp rest)
  else if name == "init" then
    (startGrammar.recognize false {} rest).map fun recognized =>
      { command :=
          .startProject
            ((recognized.arguments.values "output_dir").head?.getD "stubsmith.yaml")
        isVerbose := before.has "verbose" || recognized.arguments.has "verbose" }
  else
    (generateGrammar.recognize false {} rest).map fun recognized =>
      { command := .generate (generateOptions recognized.arguments)
        isVerbose := before.has "verbose" || recognized.arguments.has "verbose" }

/-- Read a command line. -/
def read
    (arguments : List String) :
    Except UsageError Invocation :=
  match toolGrammar.recognize false {} arguments with
  | .error error => .error error
  | .ok recognized =>
      match recognized.command with
      | some (name, rest) => readCommand recognized.arguments name rest
      | none =>
          .error (if recognized.arguments.found.isEmpty then .nothingGiven else .missingCommand)

end Invocation

end BindingStubs
