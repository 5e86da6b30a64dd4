import BindingStubs.Location

namespace BindingStubs

/-!
# Faults

A fault says why a registration, a type or a stub was refused.  Faults that concern one
translation unit are told apart from those that concern the whole model, because a run
collects the former from every unit before it gives up.
-/

/-- Why something was refused. -/
inductive Fault where
  /-- A call does not have the structure its registration idiom requires. -/
  | shapeMismatch (idiom : String) (reason : String) (location : Location)
  /-- The compiler reported errors. -/
  | unparsable (path : String) (diagnostics : List String)
  /-- A key that must be unique was registered twice. -/
  | duplicate (kind : String) (key : String) (first second : Location)
  /-- Several type rules apply and none is more specific than the others. -/
  | ambiguous (type : String) (candidates : List String)
  /-- Something needed for a stub is missing. -/
  | emission (reason : String)
  /-- An entity is reachable under two names. -/
  | containment (kind : String) (key : String) (existing computed : String)
  /-- Following the rules for a type, or the references of a constant, leads back to where it
  began. -/
  | endless (name : String)
  /-- A document is not well-formed JSON of the expected shape. -/
  | malformedJson
  deriving Repr, DecidableEq

namespace Fault

/-- The sentence shown for a fault. -/
def message : Fault → String
  | .shapeMismatch idiom reason location =>
      "`" ++ idiom ++ "` registration at " ++ location.text ++ ": " ++ reason
  | .unparsable path diagnostics =>
      path ++ " failed to parse:\n" ++ String.intercalate "\n" diagnostics
  | .duplicate kind key first second =>
      "duplicate " ++ kind ++ " `" ++ key ++ "`: registered at " ++ first.text
        ++ " and again at " ++ second.text
  | .ambiguous type candidates =>
      "ambiguous type mapping for `" ++ type ++ "`; equally specific candidates: "
        ++ String.intercalate ", " candidates
  | .emission reason => "cannot emit " ++ reason
  | .containment kind key existing computed =>
      kind ++ " `" ++ key ++ "` is reachable as both `" ++ existing ++ "` and `"
        ++ computed ++ "`"
  | .endless name => "following `" ++ name ++ "` never ends"
  | .malformedJson => "JSON error"

/-- Whether the fault concerns a single translation unit rather than the merged model. -/
def isPerFile : Fault → Bool
  | .shapeMismatch .. => true
  | .unparsable .. => true
  | _ => false

end Fault

end BindingStubs
