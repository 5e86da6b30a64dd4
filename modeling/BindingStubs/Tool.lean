import BindingStubs.CommandLine.Invocation
import BindingStubs.Compiler.Basic
import BindingStubs.Config.Commented
import BindingStubs.Config.Inputs
import BindingStubs.Config.Reading
import BindingStubs.Run.Basic

namespace BindingStubs

/-!
# The tool

A command of the tool acts on the world, prints, and ends with an exit code: zero on
success, one when a run fails, two when it cannot start.
-/

/-- What a command leaves besides the world. -/
structure ToolResult where
  code : Nat := 0
  output : String := ""
  errors : String := ""
  deriving Repr, DecidableEq

/-- What the tool knows about where it runs. -/
structure ToolSetting where
  /-- The path of the tool itself. -/
  executable : String
  /-- Where the user keeps fragments when no configuration says so. -/
  userCache : Option String
  deriving Repr, DecidableEq

namespace Tool

/-- A command that cannot start. -/
def refusal
    (message : String) :
    ToolResult :=
  { code := 2, errors := "Error: " ++ message ++ "\n" }

/-- The configuration of a file, given or found in the working directory, or an empty one. -/
def loadConfig
    (files : FileTree)
    (explicit : Option String) :
    Except Failure Config :=
  match explicit with
  | some path => Config.ofFile files path
  | none =>
      match Config.discover? files "." with
      | some path => Config.ofFile files path
      | none => .ok {}

/-- Perform the run of a configuration over sources. -/
def generateFrom
    (setting : ToolSetting)
    (isQuiet : Bool)
    (config : Config)
    (sources : List String)
    (world : World) :
    ToolResult × World :=
  let frontend := Compiler.frontend config.compilerOptions
  let options := config.runOptions setting.userCache sources
  match Run.perform frontend options setting.executable world with
  | .ok result after =>
      ({ output := result.printed
         errors := if isQuiet then "" else Report.summary false result.summary }, after)
  | .error failures after =>
      ({ code := 1, errors := Report.failures false failures }, after)

/-- Generate stubs. -/
def generate
    (setting : ToolSetting)
    (options : GenerateOptions)
    (world : World) :
    ToolResult × World :=
  match loadConfig world.files options.configFile with
  | .error failure => (refusal failure.chain, world)
  | .ok loaded =>
      let config := loaded.overlaid options.settings
      match config.problem? with
      | some problem => (refusal ("invalid configuration: " ++ problem.message), world)
      | none =>
          if config.inputs.isEmpty then
            ({ code := 2
               errors :=
                 "Error: no inputs given\n"
                   ++ "Pass translation units on the command line or list them in "
                   ++ "stubsmith.yaml\n" }, world)
          else
            match config.inputs.find? fun path => !world.files.isPresent path with
            | some missing => (refusal ("cannot access input " ++ missing), world)
            | none =>
                match (config.collectInputs? world.files).getD [] with
                | [] => ({ errors := "Warning: no translation units found\n" }, world)
                | sources => generateFrom setting options.isQuiet config sources world

/-- Create the directory above a file that is about to be written. -/
def prepareParent
    (output : String) :
    Acting Unit :=
  Acting.makeParent output

/-- Write a starting configuration, but never over a file. -/
def startProject
    (output : String)
    (world : World) :
    ToolResult × World :=
  match prepareParent output world with
  | .error failure after => (refusal failure.outermost, after)
  | .ok _ prepared =>
      if prepared.files.isPresent output then
        (refusal (output ++ " already exists; pass --output for another path"), prepared)
      else
        match prepared.write output Config.starter.commentedText with
        | .error _ => (refusal ("creating " ++ output), prepared)
        | .ok after =>
            ({ output :=
                 "Wrote " ++ output ++ "; list your binding sources under `inputs`, then run "
                   ++ "`stubsmith generate`\n" }, after)

/-- Run the tool with a command line.  A command line that cannot be read prints nothing. -/
def run
    (setting : ToolSetting)
    (arguments : List String)
    (world : World) :
    ToolResult × World :=
  match Invocation.read arguments with
  | .error error => ({ code := error.exitCode }, world)
  | .ok invocation =>
      match invocation.command with
      | .generate options => generate setting options world
      | .startProject output => startProject output world

end Tool

end BindingStubs
