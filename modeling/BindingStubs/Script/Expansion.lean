import BindingStubs.Script.Basic
import BindingStubs.Text.Decimal

namespace BindingStubs

/-!
# Expansion of words

Parameters are replaced by their values.  The value of a parameter outside quotes is split
at blanks, so that a word may become several or none.
-/

/-- The parameters of a running script. -/
structure ScriptParameters where
  name : String
  arguments : List String
  assigned : List (String × String) := []
  status : Nat := 0
  deriving Repr, DecidableEq

namespace ScriptParameters

/-- Give a variable a value. -/
def assign
    (parameters : ScriptParameters)
    (name value : String) :
    ScriptParameters :=
  { parameters with
    assigned := (name, value) :: parameters.assigned.filter fun entry => entry.1 != name }

/-- The value of a parameter; one that is not set is empty. -/
def value
    (parameters : ScriptParameters)
    (name : String) :
    String :=
  if name == "*" || name == "@" then String.intercalate " " parameters.arguments
  else if name == "#" then Text.ofNat parameters.arguments.length
  else if name == "?" then Text.ofNat parameters.status
  else
    match Text.readDigits? name.toList with
    | some 0 => parameters.name
    | some index => (parameters.arguments[index - 1]?).getD ""
    | none => (parameters.assigned.lookup name).getD ""

end ScriptParameters

/-- The words that have been put together, reversed, and the one that is still open. -/
structure OpenFields where
  done : List String := []
  current : Option String := none
  deriving Repr, DecidableEq

namespace OpenFields

/-- Add text to the open word. -/
def append
    (fields : OpenFields)
    (text : String) :
    OpenFields :=
  { fields with current := some (fields.current.getD "" ++ text) }

/-- End the open word. -/
def close
    (fields : OpenFields) :
    OpenFields :=
  { done := fields.current.toList ++ fields.done, current := none }

/-- Add each of several words; the last one stays open. -/
def appendWords
    (fields : OpenFields) :
    List String → OpenFields
  | [] => fields
  | [last] => fields.append last
  | word :: rest => (fields.append word).close.appendWords rest

/-- Add a value that is split at blanks. -/
def appendSplit
    (fields : OpenFields) :
    List Char → OpenFields
  | [] => fields
  | character :: rest =>
      if character = ' ' || character = '\t' || character = '\n' then
        fields.close.appendSplit rest
      else (fields.append (String.singleton character)).appendSplit rest

end OpenFields

namespace ScriptParameters

/-- Add a part of a word. -/
def expandPart
    (parameters : ScriptParameters)
    (fields : OpenFields) :
    WordPart → OpenFields
  | .text characters _ => fields.append characters
  | .parameter name true =>
      if name == "@" then fields.appendWords parameters.arguments
      else fields.append (parameters.value name)
  | .parameter name false =>
      if name == "@" || name == "*" then
        parameters.arguments.foldl
          (fun fields argument => (fields.appendSplit argument.toList).close) fields
      else fields.appendSplit (parameters.value name).toList

/-- The words that a word expands to. -/
def expandWord
    (parameters : ScriptParameters)
    (word : ScriptWord) :
    List String :=
  (word.foldl parameters.expandPart {}).close.done.reverse

/-- The words that a list of words expands to. -/
def expandWords
    (parameters : ScriptParameters)
    (words : List ScriptWord) :
    List String :=
  words.flatMap parameters.expandWord

/-- The text that a word expands to where it is not split. -/
def expandText
    (parameters : ScriptParameters)
    (word : ScriptWord) :
    String :=
  String.join (word.map fun part =>
    match part with
    | .text characters _ => characters
    | .parameter name _ => parameters.value name)

end ScriptParameters

/-- An item of a pattern. -/
inductive PatternItem where
  | any
  | one
  | literal (character : Char)
  deriving Repr, DecidableEq

namespace PatternItem

/-- The items of text in a pattern; quotes take away the meaning of stars. -/
def ofText
    (isQuoted : Bool)
    (text : String) :
    List PatternItem :=
  text.toList.map fun character =>
    if isQuoted then .literal character
    else if character = '*' then .any
    else if character = '?' then .one
    else .literal character

/-- The pattern that a word is. -/
def ofWord
    (parameters : ScriptParameters)
    (word : ScriptWord) :
    List PatternItem :=
  word.flatMap fun part =>
    match part with
    | .text characters isQuoted => ofText isQuoted characters
    | .parameter name isQuoted => ofText isQuoted (parameters.value name)

/-- All ends of a text, itself first. -/
def endings : List Char → List (List Char)
  | [] => [[]]
  | character :: rest => (character :: rest) :: endings rest

/-- Whether a text matches a pattern. -/
def accepts : List PatternItem → List Char → Bool
  | [], text => text.isEmpty
  | .any :: rest, text => (endings text).any (accepts rest)
  | .one :: rest, _ :: text => accepts rest text
  | .one :: _, [] => false
  | .literal expected :: rest, character :: text => expected == character && accepts rest text
  | .literal _ :: _, [] => false

end PatternItem

end BindingStubs
