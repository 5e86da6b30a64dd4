import BindingStubs.Json.Basic

namespace BindingStubs.Json

/-!
# Records in JSON

A record is written as an object.  When it is read, unknown fields are passed over and a
known field may stand only once.  A record may also be given as an array of its fields in
order; then a field may be left out only at the end and only if it has a default.
-/

/-- The known fields of a record that is being read. -/
structure Record where
  fields : List (String × Json)
  isPositional : Bool
  deriving Inhabited

/-- Whether no name occurs twice. -/
def namesOnce : List (String × Json) → Bool
  | [] => true
  | field :: rest => !(rest.any fun other => other.1 == field.1) && namesOnce rest

/-- The record with the given field names that a value holds. -/
def record?
    (names : List String) :
    Json → Option Record
  | .object fields =>
      let known := fields.filter fun field => names.contains field.1
      if namesOnce known then some { fields := known, isPositional := false } else none
  | .array items =>
      if items.length ≤ names.length then
        some { fields := names.zip items, isPositional := true }
      else none
  | _ => none

namespace Record

variable {α : Type}

/-- A field that must be present. -/
def required
    (record : Record)
    (name : String)
    (decode : Json → Option α) :
    Option α :=
  (record.fields.lookup name).bind decode

/-- A value that may be null. -/
def nullable
    (decode : Json → Option α) :
    Json → Option (Option α)
  | .null => some none
  | value => (decode value).map some

/-- A field that may be null, or absent from an object. -/
def optional
    (record : Record)
    (name : String)
    (decode : Json → Option α) :
    Option (Option α) :=
  match record.fields.lookup name with
  | some value => nullable decode value
  | none => if record.isPositional then none else some none

/-- A field with a value for when it is absent. -/
def defaulted
    (record : Record)
    (name : String)
    (fallback : α)
    (decode : Json → Option α) :
    Option α :=
  match record.fields.lookup name with
  | some value => decode value
  | none => some fallback

end Record

/-- Read every item of an array. -/
def list?
    {α : Type}
    (decode : Json → Option α) :
    Json → Option (List α)
  | .array items => items.mapM decode
  | _ => none

/-- Read every field of an object. -/
def entries?
    {α : Type}
    (decode : Json → Option α) :
    Json → Option (List (String × α))
  | .object fields => fields.mapM fun field => (decode field.2).map (field.1, ·)
  | _ => none

/-- Read a natural number below a limit. -/
def below?
    (limit : Nat) :
    Json → Option Nat
  | .number (.natural value) => if value < limit then some value else none
  | _ => none

end BindingStubs.Json
