import BindingStubs.Compiler.Options
import BindingStubs.Dump.Conversion
import BindingStubs.MakeRule
import BindingStubs.Program
import BindingStubs.Run.Frontend

namespace BindingStubs

/-!
# The compiler as a front end

A source is parsed by two runs of the compiler: one dumps the tree, the other lists the
files that were read.  A run that prints errors or ends with a status other than zero fails
with what it printed.
-/

namespace Compiler

/-- Run a program, with a note on what failed to run. -/
def launch
    (executable : String)
    (arguments : List String) :
    Acting ProgramOutput :=
  fun world =>
    match Program.run executable arguments world with
    | (.ok result, after) => .ok result after
    | (.error error, after) =>
        .error ((Failure.ofOs error).withNote ("failed to run `" ++ executable ++ "`")) after

/-- Whether a line reports an error. -/
def reportsError
    (line : List Char) :
    Bool :=
  Text.occursIn "error:".toList line

/-- The diagnostics of a failed run: lines that report errors, or else all lines and the
status.  A run without diagnostics has not failed. -/
def diagnostics
    (executable : String)
    (result : ProgramOutput) :
    List String :=
  let lines := Text.lines result.errors.toList
  match lines.filter reportsError with
  | [] =>
      if result.status = 0 then []
      else
        lines.map String.ofList
          ++ [executable ++ " exited with exit status: " ++ Text.ofNat result.status]
  | errors => errors.map String.ofList

/-- Run the compiler on a source and fail with its diagnostics. -/
def launchChecked
    (executable : String)
    (arguments : List String)
    (source : String) :
    Acting ProgramOutput := do
  let result ← launch executable (arguments ++ [source])
  match diagnostics executable result with
  | [] => return result
  | found => throw (Failure.ofFault (.unparsable source found))

/-- The files that a source depends on. -/
def dependencies
    (executable : String)
    (arguments : List String)
    (source : String) :
    Acting (List String) := do
  let result ← launchChecked executable (arguments ++ ["-M"]) source
  return MakeRule.dependencies result.output

/-- The arguments that dump a tree. -/
def dumpArguments : List String := ["-fsyntax-only", "-Xclang", "-ast-dump=json"]

/-- Parse a source. -/
def parse
    (options : CompilerOptions)
    (source : String)
    (precompiled : Option String) :
    Acting ParsedUnit := do
  let arguments :=
    options.flags ++ (precompiled.toList.flatMap fun path => ["-include-pch", path])
  let dump ← launchChecked options.executable (arguments ++ dumpArguments) source
  let unit ← Acting.noting ("reading the AST dump of " ++ source)
    (Acting.ofExcept (TranslationUnit.ofDumpText source dump.output.toList))
  let dependencies ← dependencies options.executable arguments source
  return { unit, dependencies }

/-- Build a precompiled header. -/
def precompile
    (options : CompilerOptions)
    (source output : String) :
    Acting (List String) := do
  let arguments := options.flags ++ ["-x", "c++-header"]
  let _ ← launchChecked options.executable (arguments ++ ["-o", output]) source
  dependencies options.executable arguments source

/-- The front end that asks a compiler. -/
def frontend
    (options : CompilerOptions) :
    Frontend :=
  { fingerprint := options.fingerprint
    parse := parse options
    precompile := precompile options }

end Compiler

end BindingStubs
