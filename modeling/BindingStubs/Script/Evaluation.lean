import BindingStubs.Script.Expansion
import BindingStubs.Script.StandardCommand

namespace BindingStubs

/-!
# Evaluation of shell scripts

A script runs from the first command to the last, or until it exits.  What its commands
print goes where their descriptors lead: to the output or the errors of the script, into a
file, or nowhere.
-/

/-- Where a descriptor leads. -/
inductive Sink where
  | output
  | errors
  | nowhere
  | file (path : String)
  deriving Repr, DecidableEq

/-- Where the two descriptors for printing lead. -/
structure Streams where
  output : Sink := .output
  errors : Sink := .errors
  deriving Repr, DecidableEq

/-- A running script. -/
structure ScriptRun where
  world : World
  parameters : ScriptParameters
  output : String := ""
  errors : String := ""
  hasExited : Bool := false
  deriving Repr

namespace ScriptRun

/-- The status of the last command. -/
def status
    (run : ScriptRun) :
    Nat :=
  run.parameters.status

/-- Set the status. -/
def withStatus
    (run : ScriptRun)
    (status : Nat) :
    ScriptRun :=
  { run with parameters := { run.parameters with status } }

/-- Print text to where a descriptor leads. -/
def print
    (run : ScriptRun)
    (sink : Sink)
    (text : String) :
    ScriptRun :=
  match sink with
  | .output => { run with output := run.output ++ text }
  | .errors => { run with errors := run.errors ++ text }
  | .nowhere => run
  | .file path =>
      if text.isEmpty then run
      else
        let before := (run.world.files.read path).toOption.getD ""
        match run.world.write path (before ++ text) with
        | .ok world => { run with world }
        | .error _ => run

/-- Open the file of a redirection; its content is dropped unless text is appended. -/
def openFile
    (run : ScriptRun)
    (path : String)
    (appends : Bool) :
    Except OsError (ScriptRun × Sink) :=
  if path == "/dev/null" then .ok (run, .nowhere)
  else if appends && run.world.files.isFile path then .ok (run, .file path)
  else
    match run.world.write path "" with
    | .ok world => .ok ({ run with world }, .file path)
    | .error error => .error error

/-- Let a descriptor lead elsewhere. -/
def Streams.set
    (streams : Streams)
    (descriptor : Nat)
    (sink : Sink) :
    Streams :=
  if descriptor = 1 then { streams with output := sink }
  else if descriptor = 2 then { streams with errors := sink }
  else streams

/-- Where a descriptor leads. -/
def Streams.get
    (streams : Streams)
    (descriptor : Nat) :
    Sink :=
  if descriptor = 1 then streams.output
  else if descriptor = 2 then streams.errors
  else .nowhere

/-- Apply redirections from left to right; nothing if a file cannot be opened. -/
def redirect? :
    List Redirection → ScriptRun → Streams → Except ScriptRun (ScriptRun × Streams)
  | [], run, streams => .ok (run, streams)
  | redirection :: rest, run, streams =>
      match redirection.target with
      | .descriptor number =>
          redirect? rest run
            (Streams.set streams redirection.descriptor (Streams.get streams number))
      | .file word appends =>
          let path := run.parameters.expandText word
          match run.openFile path appends with
          | .ok (opened, sink) =>
              redirect? rest opened (Streams.set streams redirection.descriptor sink)
          | .error error =>
              let line :=
                run.parameters.name ++ ": cannot create " ++ path ++ ": " ++ StandardCommand.reason error
                  ++ "\n"
              .error ((run.print streams.errors line).withStatus 2)

/-- Give variables their values. -/
def assignAll
    (run : ScriptRun)
    (assignments : List (String × ScriptWord)) :
    ScriptRun :=
  assignments.foldl
    (fun run (name, word) =>
      { run with parameters := run.parameters.assign name (run.parameters.expandText word) })
    run

/-- Leave the script with a status. -/
def exit
    (run : ScriptRun)
    (arguments : List String) :
    ScriptRun :=
  let status :=
    match arguments with
    | code :: _ => ((Text.readDigits? code.toList).getD 2) % 256
    | [] => run.status
  { run.withStatus status with hasExited := true }

/-- Run a command whose words are expanded. -/
def perform
    (run : ScriptRun)
    (streams : Streams)
    (name : String)
    (arguments : List String) :
    ScriptRun :=
  match name with
  | ":" => run.withStatus 0
  | "exit" => run.exit arguments
  | "shift" =>
      { run with
        parameters := { run.parameters with arguments := run.parameters.arguments.drop 1, status := 0 } }
  | _ =>
      match StandardCommand.run? name arguments run.world with
      | some (result, world) =>
          ((({ run with world } : ScriptRun).print streams.output result.output).print
            streams.errors result.errors).withStatus result.status
      | none =>
          (run.print streams.errors
            (run.parameters.name ++ ": " ++ name ++ ": not found\n")).withStatus 127

/-- Whether a text matches one of several patterns. -/
def matchesAny
    (run : ScriptRun)
    (subject : ScriptWord)
    (patterns : List ScriptWord) :
    Bool :=
  let text := (run.parameters.expandText subject).toList
  patterns.any fun pattern =>
    PatternItem.accepts (PatternItem.ofWord run.parameters pattern) text

end ScriptRun

/-- Run a script. -/
def Script.run
    (script : Script)
    (streams : Streams)
    (run : ScriptRun) :
    ScriptRun :=
  if run.hasExited then run
  else
    match script with
    | .skip => run
    | .simple assignments words redirections =>
        match ScriptRun.redirect? redirections run streams with
        | .error failed => failed
        | .ok (opened, inner) =>
            match opened.parameters.expandWords words with
            | [] => (opened.assignAll assignments).withStatus 0
            | name :: arguments => (opened.assignAll assignments).perform inner name arguments
    | .sequence first second => second.run streams (first.run streams run)
    | .both first second =>
        let after := first.run streams run
        if after.status = 0 then second.run streams after else after
    | .either first second =>
        let after := first.run streams run
        if after.status = 0 then after else second.run streams after
    | .negation body =>
        let after := body.run streams run
        if after.hasExited then after else after.withStatus (if after.status = 0 then 1 else 0)
    | .forEach name values body =>
        let listed :=
          match values with
          | some words => run.parameters.expandWords words
          | none => run.parameters.arguments
        listed.foldl
          (fun run value =>
            if run.hasExited then run
            else
              body.run streams { run with parameters := run.parameters.assign name value })
          (run.withStatus 0)
    | .matching subject patterns body otherwise =>
        if run.matchesAny subject patterns then body.run streams (run.withStatus 0)
        else otherwise.run streams (run.withStatus 0)
    | .conditional condition body otherwise =>
        let after := condition.run streams run
        if after.hasExited then after
        else if after.status = 0 then body.run streams after
        else otherwise.run streams (after.withStatus 0)
    | .redirected body redirections =>
        match ScriptRun.redirect? redirections run streams with
        | .error failed => failed
        | .ok (opened, inner) => body.run inner opened

end BindingStubs
