import BindingStubs.Text.Decimal
import BindingStubs.World

namespace BindingStubs

/-!
# Standard commands

The small programs that scripts use and that need nothing but files.  Each answers with a
status, which is zero on success, and with what it prints.
-/

/-- What a program leaves when it ends. -/
structure ProgramOutput where
  status : Nat := 0
  output : String := ""
  errors : String := ""
  deriving Repr, DecidableEq, Inhabited

namespace StandardCommand

/-- The sentence for a file system error without its number. -/
def reason : OsError → String
  | .notFound => "No such file or directory"
  | .permissionDenied => "Permission denied"
  | .fileExists => "File exists"
  | .notADirectory => "Not a directory"
  | .isADirectory => "Is a directory"
  | .directoryNotEmpty => "Directory not empty"
  | .notExecutable => "Exec format error"

/-- The line that a command prints about a path. -/
def complaint
    (name doing path : String)
    (error : OsError) :
    String :=
  name ++ ": " ++ doing ++ path ++ ": " ++ reason error ++ "\n"

/-- Join what two steps leave; the first failure decides. -/
def followedBy
    (first second : ProgramOutput) :
    ProgramOutput :=
  { status := if first.status = 0 then second.status else first.status
    output := first.output ++ second.output
    errors := first.errors ++ second.errors }

/-- Apply a step to each path in turn. -/
def forEachPath
    (step : String → World → ProgramOutput × World) :
    List String → World → ProgramOutput × World
  | [], world => ({}, world)
  | path :: rest, world =>
      let (first, between) := step path world
      let (others, after) := forEachPath step rest between
      (followedBy first others, after)

/-- Print the content of a file. -/
def showFile
    (path : String)
    (world : World) :
    ProgramOutput × World :=
  match world.files.read path with
  | .ok content => ({ output := content }, world)
  | .error error => ({ status := 1, errors := complaint "cat" "" path error }, world)

/-- Remove a file; when forced, an absent one is no error. -/
def removeFile
    (isForced : Bool)
    (path : String)
    (world : World) :
    ProgramOutput × World :=
  match world.change fun files _ => files.remove path with
  | .ok after => ({}, after)
  | .error error =>
      if isForced && error = .notFound then ({}, world)
      else
        let quoted := "'" ++ path ++ "'"
        ({ status := 1, errors := complaint "rm" "cannot remove " quoted error }, world)

/-- Set the time of a file to now, or create it. -/
def touchFile
    (path : String)
    (world : World) :
    ProgramOutput × World :=
  let changed :=
    world.change fun files now =>
      if files.isFile path then .ok (files.touch path now)
      else if files.isDirectory path then .ok files
      else files.write path "" now
  match changed with
  | .ok after => ({}, after)
  | .error error =>
      let quoted := "'" ++ path ++ "'"
      ({ status := 1, errors := complaint "touch" "cannot touch " quoted error }, world)

/-- Create a directory, with those above it if asked to. -/
def makeDirectory
    (withParents : Bool)
    (path : String)
    (world : World) :
    ProgramOutput × World :=
  let changed :=
    world.change fun files now =>
      if withParents then files.makeDirectories path now else files.makeDirectory path now
  match changed with
  | .ok after => ({}, after)
  | .error error =>
      let quoted := "'" ++ path ++ "'"
      ({ status := 1, errors := complaint "mkdir" "cannot create directory " quoted error }, world)

/-- Copy a file, or move it. -/
def copyFile
    (name : String)
    (isMoved : Bool)
    (source target : String)
    (world : World) :
    ProgramOutput × World :=
  let destination :=
    if world.files.isDirectory target then
      FilePath.join target ((FilePath.fileName? source).getD "")
    else target
  let changed :=
    world.change fun files now =>
      match files.read source with
      | .error error => .error error
      | .ok content =>
          match files.write destination content now with
          | .error error => .error error
          | .ok written => if isMoved then written.remove source else .ok written
  match changed with
  | .ok after => ({}, after)
  | .error error =>
      let quoted := "'" ++ source ++ "'"
      ({ status := 1, errors := complaint name "cannot stat " quoted error }, world)

/-- The characters that a backslash and a letter stand for when text is printed. -/
def printedEscapes : List (Char × Char) :=
  [('a', '\x07'), ('b', '\x08'), ('f', '\x0c'), ('n', '\n'), ('r', '\r'), ('t', '\t'),
   ('v', '\x0b'), ('\\', '\\')]

/-- Text as it is printed; nothing is printed behind a backslash and a letter c. -/
def printed : List Char → List Char × Bool
  | [] => ([], true)
  | '\\' :: 'c' :: _ => ([], false)
  | '\\' :: letter :: rest =>
      match printedEscapes.lookup letter with
      | some character =>
          let (text, ends) := printed rest
          (character :: text, ends)
      | none =>
          let (text, ends) := printed rest
          ('\\' :: letter :: text, ends)
  | character :: rest =>
      let (text, ends) := printed rest
      (character :: text, ends)

/-- Print words on a line. -/
def echo
    (arguments : List String) :
    ProgramOutput :=
  let (withoutEnd, words) :=
    match arguments with
    | "-n" :: rest => (true, rest)
    | _ => (false, arguments)
  let (text, ends) := printed (String.intercalate " " words).toList
  { output := String.ofList (if ends && !withoutEnd then text ++ ['\n'] else text) }

/-- Whether a test holds; nothing if it cannot be understood. -/
def test?
    (files : FileTree) :
    List String → Option Bool
  | [] => some false
  | [text] => some (!text.isEmpty)
  | [operator, operand] =>
      match operator with
      | "-f" => some (files.isFile operand)
      | "-d" => some (files.isDirectory operand)
      | "-e" => some (files.isPresent operand)
      | "-r" => some (files.isPresent operand)
      | "-s" =>
          some
            (match files.read operand with
             | .ok content => !content.isEmpty
             | .error _ => false)
      | "-n" => some (!operand.isEmpty)
      | "-z" => some operand.isEmpty
      | "!" => some operand.isEmpty
      | _ => none
  | [left, operator, right] =>
      if operator == "=" then some (left == right)
      else if operator == "!=" then some (left != right)
      else if left == "!" then (test? files [operator, right]).map (!·)
      else
        match Text.readInteger? left.toList, Text.readInteger? right.toList with
        | some first, some second =>
            match operator with
            | "-eq" => some (first == second)
            | "-ne" => some (first != second)
            | "-lt" => some (decide (first < second))
            | "-le" => some (decide (first ≤ second))
            | "-gt" => some (decide (second < first))
            | "-ge" => some (decide (second ≤ first))
            | _ => none
        | _, _ => none
  | first :: rest => if first == "!" then (test? files rest).map (!·) else none

/-- What a test leaves. -/
def test
    (files : FileTree)
    (arguments : List String) :
    ProgramOutput :=
  match test? files arguments with
  | some true => {}
  | some false => { status := 1 }
  | none => { status := 2 }

/-- Options and operands of a command. -/
def splitOptions
    (arguments : List String) :
    List String × List String :=
  arguments.partition fun argument => argument.toList.head? == some '-' && argument != "-"

/-- Run a standard command, if there is one of this name. -/
def run?
    (name : String)
    (arguments : List String)
    (world : World) :
    Option (ProgramOutput × World) :=
  let (options, operands) := splitOptions arguments
  match name with
  | "true" => some ({}, world)
  | "false" => some ({ status := 1 }, world)
  | "echo" => some (echo arguments, world)
  | "test" => some (test world.files arguments, world)
  | "[" =>
      match arguments.reverse with
      | "]" :: rest => some (test world.files rest.reverse, world)
      | _ => some ({ status := 2 }, world)
  | "cat" => some (forEachPath showFile operands world)
  | "rm" =>
      let isForced := options.any fun option => option.toList.contains 'f'
      if operands.isEmpty && !isForced then some ({ status := 1 }, world)
      else some (forEachPath (removeFile isForced) operands world)
  | "touch" => some (forEachPath touchFile operands world)
  | "mkdir" =>
      some (forEachPath (makeDirectory (options.any fun option => option.toList.contains 'p'))
        operands world)
  | "cp" =>
      match operands with
      | [source, target] => some (copyFile "cp" false source target world)
      | _ => some ({ status := 1 }, world)
  | "mv" =>
      match operands with
      | [source, target] => some (copyFile "mv" true source target world)
      | _ => some ({ status := 1 }, world)
  | _ => none

end StandardCommand

end BindingStubs
