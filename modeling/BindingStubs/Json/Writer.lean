import BindingStubs.Json.Basic
import BindingStubs.Text.ShortestReal

namespace BindingStubs.Json

/-!
# Writing JSON

Values are written either without any blank or, in the indented form, with one item a line
and two spaces a level.  Strings escape the quote, the backslash and control
characters, and nothing else.
-/

/-- One character of a quoted string. -/
def escapeCharacter
    (character : Char) :
    List Char :=
  if character = '"' then ['\\', '"']
  else if character = '\\' then ['\\', '\\']
  else if character = '\n' then ['\\', 'n']
  else if character = '\r' then ['\\', 'r']
  else if character = '\t' then ['\\', 't']
  else if character = '\x08' then ['\\', 'b']
  else if character = '\x0c' then ['\\', 'f']
  else if character.toNat < 0x20 then '\\' :: 'u' :: Text.hexPadded 4 character.toNat
  else [character]

/-- A string in quotes. -/
def quote
    (text : String) :
    List Char :=
  '"' :: text.toList.flatMap escapeCharacter ++ ['"']

/-- The text of a number. -/
def writeNumber : JsonNumber → List Char
  | .natural value => (Text.ofNat value).toList
  | .negative predecessor => '-' :: (Text.ofNat (predecessor + 1)).toList
  | .real bits => (Text.ofRealBits bits).toList

/-- Where blanks stand in a text: what separates the items of a level, and what follows the
colon behind a field name. -/
structure Layout where
  lineBreak : (level : Nat) → List Char
  afterColon : List Char

namespace Layout

/-- No blanks at all. -/
def compact : Layout where
  lineBreak _ := []
  afterColon := []

/-- One item a line, indented by two spaces a level. -/
def indented : Layout where
  lineBreak level := '\n' :: List.replicate (2 * level) ' '
  afterColon := [' ']

end Layout

mutual

/-- The text of a value. -/
def writeWith
    (layout : Layout)
    (level : Nat) :
    Json → List Char
  | .null => "null".toList
  | .bool true => "true".toList
  | .bool false => "false".toList
  | .number value => writeNumber value
  | .string text => quote text
  | .array [] => ['[', ']']
  | .array (item :: rest) =>
      '[' :: layout.lineBreak (level + 1) ++ writeWith layout (level + 1) item
        ++ writeItems layout (level + 1) rest ++ layout.lineBreak level ++ [']']
  | .object [] => ['\x7b', '\x7d']
  | .object (field :: rest) =>
      '\x7b' :: layout.lineBreak (level + 1) ++ writeField layout (level + 1) field
        ++ writeFields layout (level + 1) rest ++ layout.lineBreak level ++ ['\x7d']
  | .unreadable => "null".toList

/-- Items behind the first, each behind a comma. -/
def writeItems
    (layout : Layout)
    (level : Nat) :
    List Json → List Char
  | [] => []
  | item :: rest =>
      ',' :: layout.lineBreak level ++ writeWith layout level item ++ writeItems layout level rest

/-- A field with its name. -/
def writeField
    (layout : Layout)
    (level : Nat) :
    String × Json → List Char
  | (name, value) => quote name ++ ':' :: layout.afterColon ++ writeWith layout level value

/-- Fields behind the first, each behind a comma. -/
def writeFields
    (layout : Layout)
    (level : Nat) :
    List (String × Json) → List Char
  | [] => []
  | field :: rest =>
      ',' :: layout.lineBreak level ++ writeField layout level field
        ++ writeFields layout level rest

end

/-- The text of a value without blanks. -/
def write
    (value : Json) :
    List Char :=
  writeWith .compact 0 value

/-- The compact text of a value. -/
def compact
    (value : Json) :
    String :=
  String.ofList (write value)

/-- The indented text of a value. -/
def pretty
    (value : Json) :
    String :=
  String.ofList (writeWith .indented 0 value)

mutual

/-- The value with the fields of every object in the order of their names, each name once
with its last value. -/
def sortFields : Json → Json
  | .array items => .array (sortItems items)
  | .object fields =>
      .object ((sortedFields fields).foldl
        (fun kept field => kept.filter (fun other => other.1 != field.1) ++ [field]) []
        |>.mergeSort fun first second => decide (first.1 ≤ second.1))
  | other => other

/-- Every item with its fields sorted. -/
def sortItems : List Json → List Json
  | [] => []
  | item :: rest => sortFields item :: sortItems rest

/-- Every field value with its fields sorted. -/
def sortedFields : List (String × Json) → List (String × Json)
  | [] => []
  | (name, value) :: rest => (name, sortFields value) :: sortedFields rest

end

end BindingStubs.Json
