import BindingStubs.Text.Basic

namespace BindingStubs

/-!
# Dependency rules

A dependency rule names a target and the files it depends on, in the format of make.
Spaces, number signs and dollars in paths are escaped; every dependency stands on a line
of its own that a backslash continues.
-/

namespace MakeRule

/-- One character of a path. -/
def escapeCharacter
    (character : Char) :
    List Char :=
  if character = ' ' then ['\\', ' ']
  else if character = '#' then ['\\', '#']
  else if character = '$' then ['$', '$']
  else [character]

/-- A path as it is written in a rule. -/
def escape
    (path : List Char) :
    List Char :=
  path.flatMap escapeCharacter

/-- Write a rule. -/
def render
    (target : List Char)
    (dependencies : List (List Char)) :
    List Char :=
  escape target ++ ':'
    :: dependencies.flatMap (fun path => " \\\n  ".toList ++ escape path) ++ ['\n']

/-- Join lines that a backslash continues. -/
def joinContinued
    (text : List Char) :
    List Char :=
  Text.replaceAll ['\\', '\n'] [' '] (Text.replaceAll ['\\', '\r', '\n'] [' '] text)

/-- What follows the separator: the first colon that no backslash precedes and that a blank
or the end of the line follows. -/
def afterSeparator? :
    (escaped : Bool) → List Char → Option (List Char)
  | _, [] => none
  | escaped, character :: rest =>
      let ends : Bool :=
        match rest with
        | [] => true
        | next :: _ => Text.isWhite next
      if character == ':' && !escaped && ends then some rest
      else afterSeparator? (character == '\\') rest

/-- Close the path that is being read, if it has begun. -/
def closePath
    (current : List Char)
    (paths : List (List Char)) :
    List (List Char) :=
  if current.isEmpty then paths else current :: paths

/-- The paths in a text, where `current` holds the reversed beginning of the first. -/
def readPaths
    (current : List Char) :
    List Char → List (List Char)
  | [] => closePath current.reverse []
  | '\\' :: ' ' :: rest => readPaths (' ' :: current) rest
  | '\\' :: '#' :: rest => readPaths ('#' :: current) rest
  | '$' :: '$' :: rest => readPaths ('$' :: current) rest
  | character :: rest =>
      if Text.isWhite character then closePath current.reverse (readPaths [] rest)
      else readPaths (character :: current) rest

/-- The dependencies of the first rule in a text. -/
def parse
    (text : List Char) :
    List (List Char) :=
  let rule :=
    ((Text.lines (joinContinued text)).find? fun line => !Text.isBlank line).getD []
  match afterSeparator? false rule with
  | some dependencies => readPaths [] dependencies
  | none => []

/-- Write a rule for paths given as strings. -/
def text
    (target : String)
    (dependencies : List String) :
    String :=
  String.ofList (render target.toList (dependencies.map String.toList))

/-- The dependencies of the first rule in a string. -/
def dependencies
    (content : String) :
    List String :=
  (parse content.toList).map String.ofList

end MakeRule

end BindingStubs
