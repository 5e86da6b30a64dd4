import BindingStubs.Script.Evaluation
import BindingStubs.Script.Reader

namespace BindingStubs

/-!
# Programs

A program is named by the path of an executable script, or it is a standard command.
Running one may change the files.
-/

namespace Program

/-- Interpreters of shell scripts. -/
def interpreters : List String :=
  ["/bin/sh", "/bin/bash", "/usr/bin/sh", "/usr/bin/bash", "/usr/bin/env sh",
   "/usr/bin/env bash", "/bin/dash", "/usr/bin/dash"]

/-- Whether the first line of a file names an interpreter of shell scripts. -/
def isShellScript
    (content : String) :
    Bool :=
  match content.toList with
  | '#' :: '!' :: rest =>
      let line := Text.trim (rest.takeWhile (· != '\n'))
      interpreters.any fun interpreter =>
        let name := interpreter.toList
        name == line || (name ++ [' ']).isPrefixOf line
  | _ => false

/-- Run a script. -/
def runScript
    (path content : String)
    (arguments : List String)
    (world : World) :
    ProgramOutput × World :=
  match Script.read? content with
  | none => ({ status := 2, errors := path ++ ": Syntax error\n" }, world)
  | some script =>
      let final := script.run {} { world, parameters := { name := path, arguments } }
      ({ status := final.status, output := final.output, errors := final.errors }, final.world)

/-- Run the file at a path. -/
def runFile
    (path : String)
    (arguments : List String)
    (world : World) :
    Except OsError ProgramOutput × World :=
  match world.files.at? path with
  | .error error => (.error error, world)
  | .ok (.directory _) => (.error .permissionDenied, world)
  | .ok (.file _ _ false) => (.error .permissionDenied, world)
  | .ok (.file content _ true) =>
      if isShellScript content then
        let (result, after) := runScript path content arguments world
        (.ok result, after)
      else (.error .notExecutable, world)

/-- Run a program: a path with a separator, or the name of a standard command. -/
def run
    (program : String)
    (arguments : List String)
    (world : World) :
    Except OsError ProgramOutput × World :=
  if program.toList.contains '/' then runFile program arguments world
  else
    match StandardCommand.run? program arguments world with
    | some (result, after) => (.ok result, after)
    | none => (.error .notFound, world)

end Program

end BindingStubs
