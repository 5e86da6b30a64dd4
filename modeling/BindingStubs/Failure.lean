import BindingStubs.Fault

namespace BindingStubs

/-!
# Failures

A failure is a root cause together with notes on what was being done, innermost first.
-/

/-- An error of the file system. -/
inductive OsError where
  | notFound
  | permissionDenied
  | fileExists
  | notADirectory
  | isADirectory
  | directoryNotEmpty
  | notExecutable
  deriving Repr, DecidableEq

namespace OsError

/-- The text of a file system error with its number. -/
def message : OsError → String
  | .notFound => "No such file or directory (os error 2)"
  | .permissionDenied => "Permission denied (os error 13)"
  | .fileExists => "File exists (os error 17)"
  | .notADirectory => "Not a directory (os error 20)"
  | .isADirectory => "Is a directory (os error 21)"
  | .directoryNotEmpty => "Directory not empty (os error 39)"
  | .notExecutable => "Exec format error (os error 8)"

end OsError

/-- The root cause of a failure. -/
inductive Cause where
  | fault (fault : Fault)
  | os (error : OsError)
  | text (message : String)
  | malformedJson
  | malformedYaml
  deriving Repr, DecidableEq

namespace Cause

/-- The sentence shown for a cause. -/
def message : Cause → String
  | .fault reason => reason.message
  | .os error => error.message
  | .text sentence => sentence
  | .malformedJson => "JSON error"
  | .malformedYaml => "YAML error"

/-- Whether the cause concerns a single translation unit. -/
def isPerFile : Cause → Bool
  | .fault reason => reason.isPerFile
  | _ => false

end Cause

/-- A root cause with notes, innermost first. -/
structure Failure where
  cause : Cause
  notes : List String := []
  deriving Repr, DecidableEq

namespace Failure

/-- The failure of a plain sentence. -/
def ofText
    (message : String) :
    Failure :=
  { cause := .text message }

/-- The failure of a fault. -/
def ofFault
    (fault : Fault) :
    Failure :=
  { cause := if fault = .malformedJson then .malformedJson else .fault fault }

/-- The failure of a file system error. -/
def ofOs
    (error : OsError) :
    Failure :=
  { cause := .os error }

/-- The failure with one more note. -/
def withNote
    (failure : Failure)
    (note : String) :
    Failure :=
  { failure with notes := failure.notes ++ [note] }

/-- The outermost sentence: the last note, or the cause if there is none. -/
def outermost
    (failure : Failure) :
    String :=
  failure.notes.getLast?.getD failure.cause.message

/-- All sentences from the outermost to the cause, separated by colons. -/
def chain
    (failure : Failure) :
    String :=
  String.intercalate ": " (failure.notes.reverse ++ [failure.cause.message])

end Failure

end BindingStubs
