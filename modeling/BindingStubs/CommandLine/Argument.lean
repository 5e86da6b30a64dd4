import BindingStubs.Text.Decimal

namespace BindingStubs

/-!
# Arguments of a command line

A command has options, which are known by a long name and perhaps a letter, and it may take
inputs.  The value of an option stands behind an equals sign, behind the letter, or in the
next argument.  A value in the next argument is only checked when the option is complete,
that is when another option or input is recognized or the arguments end.
-/

/-- Why arguments cannot be used, or what they ask for instead of a command. -/
inductive UsageError where
  | unknownArgument
  | missingValue
  | malformedValue
  | repeatedOption
  | unneededValue
  | unknownCommand
  | missingCommand
  | nothingGiven
  | helpRequested
  | versionRequested
  deriving Repr, DecidableEq

/-- The exit code of the program: asking for help or for the version is no error. -/
def UsageError.exitCode : UsageError → Nat
  | .helpRequested => 0
  | .versionRequested => 0
  | _ => 2

/-- What the values of an option are. -/
inductive ArgumentKind where
  | text
  | path
  | count
  deriving Repr, DecidableEq

/-- Check a value: a path must not be empty, and a count is a number of 64 bits. -/
def ArgumentKind.check
    (kind : ArgumentKind)
    (value : String) :
    Except UsageError Unit :=
  match kind with
  | .text => .ok ()
  | .path => if value.isEmpty then .error .missingValue else .ok ()
  | .count =>
      match Text.readNat? (Width.limit 64) value.toList with
      | some _ => .ok ()
      | none => .error .malformedValue

/-- What an option does. -/
inductive OptionKind where
  | flag
  | single (kind : ArgumentKind)
  | repeated (kind : ArgumentKind)
  | help
  | version
  deriving Repr, DecidableEq

/-- An option of a command. -/
structure OptionSpec where
  /-- The setting that the option stands for. -/
  setting : String
  long : String
  letter : Option Char := none
  kind : OptionKind
  /-- Whether the next argument is the value even if it looks like an option. -/
  takesHyphens : Bool := false
  deriving Repr, DecidableEq

namespace OptionSpec

/-- What the values of an option are, if it takes any. -/
def argumentKind?
    (option : OptionSpec) :
    Option ArgumentKind :=
  match option.kind with
  | .single kind => some kind
  | .repeated kind => some kind
  | _ => none

/-- Whether an option may be given more than once. -/
def isRepeatable
    (option : OptionSpec) :
    Bool :=
  match option.kind with
  | .repeated _ => true
  | _ => false

end OptionSpec

/-- What a command accepts. -/
structure Grammar where
  options : List OptionSpec
  /-- The pseudo-option that collects inputs, if there may be any. -/
  inputs : Option OptionSpec := none
  /-- Names of commands below this one. -/
  commands : List String := []
  deriving Repr

namespace Grammar

/-- The option with a long name. -/
def byName?
    (grammar : Grammar)
    (name : String) :
    Option OptionSpec :=
  grammar.options.find? fun option => option.long == name

/-- The option with a letter. -/
def byLetter?
    (grammar : Grammar)
    (letter : Char) :
    Option OptionSpec :=
  grammar.options.find? fun option => option.letter == some letter

end Grammar

/-- What has been recognized: complete options with their values, an option that is not yet
complete, and whether it still waits for its value. -/
structure Arguments where
  found : List (String × List String) := []
  open? : Option (OptionSpec × List String) := none
  isWaiting : Bool := false
  deriving Repr, Inhabited

namespace Arguments

/-- Whether a setting was given. -/
def has
    (arguments : Arguments)
    (setting : String) :
    Bool :=
  (arguments.found.lookup setting).isSome

/-- All values of a setting. -/
def values
    (arguments : Arguments)
    (setting : String) :
    List String :=
  arguments.found.flatMap fun entry => if entry.1 == setting then entry.2 else []

/-- Check the values of an option and keep them. -/
def accept
    (arguments : Arguments)
    (option : OptionSpec)
    (values : List String) :
    Except UsageError Arguments :=
  match option.argumentKind? with
  | none =>
      if option.kind = .help then .error .helpRequested
      else if option.kind = .version then .error .versionRequested
      else if arguments.has option.setting then .error .repeatedOption
      else .ok { arguments with found := arguments.found ++ [(option.setting, [])] }
  | some kind =>
      if values.isEmpty then .error .missingValue
      else if !option.isRepeatable && arguments.has option.setting then .error .repeatedOption
      else
        match values.forM kind.check with
        | .error error => .error error
        | .ok _ => .ok { arguments with found := arguments.found ++ [(option.setting, values)] }

/-- Complete the option that is open. -/
def complete
    (arguments : Arguments) :
    Except UsageError Arguments :=
  match arguments.open? with
  | none => .ok { arguments with isWaiting := false }
  | some (option, values) =>
      ({ arguments with open? := none, isWaiting := false } : Arguments).accept option values

/-- Complete the open option and accept another one whose values are known. -/
def acceptNext
    (arguments : Arguments)
    (option : OptionSpec)
    (values : List String) :
    Except UsageError Arguments :=
  match arguments.complete with
  | .error error => .error error
  | .ok completed => completed.accept option values

/-- Complete the open option and open another one that waits for its value. -/
def openNext
    (arguments : Arguments)
    (option : OptionSpec) :
    Except UsageError Arguments :=
  match arguments.complete with
  | .error error => .error error
  | .ok completed => .ok { completed with open? := some (option, []), isWaiting := true }

/-- Give a value to the open option. -/
def giveValue
    (arguments : Arguments)
    (value : String) :
    Arguments :=
  { arguments with
    open? := arguments.open?.map fun (option, values) => (option, values ++ [value])
    isWaiting := false }

/-- Take an option with or without a value attached to it. -/
def takeOption
    (arguments : Arguments)
    (option : OptionSpec)
    (attached : Option String) :
    Except UsageError Arguments :=
  match attached with
  | some value => arguments.acceptNext option [value]
  | none => arguments.openNext option

/-- Take an input.  Inputs that follow one another are completed together. -/
def takeInput
    (arguments : Arguments)
    (inputs : OptionSpec)
    (value : String) :
    Except UsageError Arguments :=
  match arguments.open? with
  | some (option, values) =>
      if option == inputs then
        .ok { arguments with open? := some (option, values ++ [value]), isWaiting := false }
      else (arguments.openNext inputs).map (giveValue · value)
  | none => (arguments.openNext inputs).map (giveValue · value)

/-- Take an option by its long name, behind the two dashes. -/
def takeLong
    (grammar : Grammar)
    (arguments : Arguments)
    (text : List Char) :
    Except UsageError Arguments :=
  let name := text.takeWhile (· != '=')
  let attached :=
    match text.drop name.length with
    | '=' :: value => some (String.ofList value)
    | _ => none
  match grammar.byName? (String.ofList name) with
  | none => .error .unknownArgument
  | some option =>
      if option.argumentKind?.isSome then arguments.takeOption option attached
      else if attached.isSome then .error .unneededValue
      else arguments.acceptNext option []

/-- Take options by their letters, behind the dash.  What follows the letter of an option
with a value is the value; an equals sign before it does not count. -/
def takeLetters
    (grammar : Grammar)
    (arguments : Arguments) :
    List Char → Except UsageError Arguments
  | [] => .ok arguments
  | letter :: rest =>
      match grammar.byLetter? letter with
      | none => .error .unknownArgument
      | some option =>
          if option.argumentKind?.isSome then
            let attached :=
              match rest with
              | [] => none
              | '=' :: value => some (String.ofList value)
              | value => some (String.ofList value)
            arguments.takeOption option attached
          else
            match arguments.acceptNext option [] with
            | .error error => .error error
            | .ok accepted => takeLetters grammar accepted rest

/-- Whether the next argument is a value whatever it looks like. -/
def takesAnything
    (arguments : Arguments) :
    Bool :=
  arguments.isWaiting && arguments.open?.any fun waiting => waiting.1.takesHyphens

end Arguments

/-- What was recognized, and the command that follows with its own arguments. -/
structure Recognized where
  arguments : Arguments
  command : Option (String × List String) := none
  deriving Repr, Inhabited

namespace Grammar

/-- Refuse an argument that is neither an option nor an input. -/
def refuse
    (grammar : Grammar)
    (onlyInputs : Bool)
    (argument : String) :
    UsageError :=
  if grammar.commands.isEmpty || (onlyInputs && grammar.commands.contains argument) then
    .unknownArgument
  else .unknownCommand

/-- Take an argument that is no option. -/
def takePlain
    (grammar : Grammar)
    (onlyInputs : Bool)
    (arguments : Arguments)
    (argument : String) :
    Except UsageError Arguments :=
  if arguments.isWaiting && !onlyInputs then .ok (arguments.giveValue argument)
  else
    match grammar.inputs with
    | some inputs => arguments.takeInput inputs argument
    | none => .error (grammar.refuse onlyInputs argument)

/-- Take one argument.  Options start with a dash; a lone dash is none. -/
def takeArgument
    (grammar : Grammar)
    (onlyInputs : Bool)
    (arguments : Arguments)
    (argument : String) :
    Except UsageError Arguments :=
  if onlyInputs || arguments.takesAnything then
    grammar.takePlain onlyInputs arguments argument
  else
    match argument.toList with
    | '-' :: '-' :: text => arguments.takeLong grammar text
    | '-' :: letter :: rest => arguments.takeLetters grammar (letter :: rest)
    | _ => grammar.takePlain false arguments argument

/-- Recognize arguments up to a command.  Behind two dashes there are only inputs. -/
def recognize
    (grammar : Grammar) :
    (onlyInputs : Bool) → Arguments → List String → Except UsageError Recognized
  | _, arguments, [] => arguments.complete.map fun completed => { arguments := completed }
  | onlyInputs, arguments, argument :: rest =>
      if !onlyInputs && !arguments.isWaiting && grammar.commands.contains argument then
        .ok { arguments := arguments, command := some (argument, rest) }
      else if !onlyInputs && !arguments.takesAnything && argument == "--" then
        grammar.recognize true arguments rest
      else
        match grammar.takeArgument onlyInputs arguments argument with
        | .error error => .error error
        | .ok taken => grammar.recognize onlyInputs taken rest

end Grammar

end BindingStubs
