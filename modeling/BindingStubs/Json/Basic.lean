import BindingStubs.Text.Decimal

namespace BindingStubs

/-!
# JSON values

Fields of an object keep their order and may repeat.  A number is a natural number of 64
bits, a negative integer of 64 bits, or a binary floating-point number given by its bits.
-/

/-- A JSON number. -/
inductive JsonNumber where
  /-- A natural number below two to the 64. -/
  | natural (value : Nat)
  /-- The integer `-(predecessor + 1)`. -/
  | negative (predecessor : Nat)
  /-- The floating-point number with these bits. -/
  | real (bits : UInt64)
  deriving Repr, DecidableEq

/-- A JSON value. -/
inductive Json where
  | null
  | bool (value : Bool)
  | number (value : JsonNumber)
  | string (value : String)
  | array (items : List Json)
  | object (fields : List (String × Json))
  /-- A string or number of correct form that stands for no value, such as half of a
  surrogate pair.  It may be passed over but not read. -/
  | unreadable
  deriving Repr, Inhabited

namespace Json

/-- The number for a natural number. -/
def ofNat
    (value : Nat) :
    Json :=
  .number (.natural value)

/-- The value of an optional string, null when it is absent. -/
def ofOption : Option String → Json
  | some text => .string text
  | none => .null

/-- The array of strings. -/
def ofStrings
    (texts : List String) :
    Json :=
  .array (texts.map .string)

/-- The first field of an object with a name; null when there is none. -/
def field
    (value : Json)
    (name : String) :
    Json :=
  match value with
  | .object fields => (fields.lookup name).getD .null
  | _ => .null

/-- The text of a string. -/
def string? : Json → Option String
  | .string text => some text
  | _ => none

/-- The value of a Boolean. -/
def bool? : Json → Option Bool
  | .bool value => some value
  | _ => none

/-- The value of a natural number. -/
def nat? : Json → Option Nat
  | .number (.natural value) => some value
  | _ => none

/-- The items of an array. -/
def array? : Json → Option (List Json)
  | .array items => some items
  | _ => none

/-- The fields of an object. -/
def object? : Json → Option (List (String × Json))
  | .object fields => some fields
  | _ => none

mutual

/-- How deep values nest inside a value, itself included. -/
def depth : Json → Nat
  | .array items => depthOfItems items + 1
  | .object fields => depthOfFields fields + 1
  | _ => 1

/-- The greatest depth among items. -/
def depthOfItems : List Json → Nat
  | [] => 0
  | item :: rest => max (depth item) (depthOfItems rest)

/-- The greatest depth among the values of fields. -/
def depthOfFields : List (String × Json) → Nat
  | [] => 0
  | (_, value) :: rest => max (depth value) (depthOfFields rest)

end

mutual

/-- Whether no part of a value is unreadable. -/
def isReadable : Json → Bool
  | .unreadable => false
  | .array items => itemsReadable items
  | .object fields => fieldsReadable fields
  | _ => true

/-- Whether every item is readable. -/
def itemsReadable : List Json → Bool
  | [] => true
  | item :: rest => isReadable item && itemsReadable rest

/-- Whether every field value is readable. -/
def fieldsReadable : List (String × Json) → Bool
  | [] => true
  | (_, value) :: rest => isReadable value && fieldsReadable rest

end

end Json

end BindingStubs
