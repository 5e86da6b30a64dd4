import BindingStubs.Text.Decimal

namespace BindingStubs

/-!
# Source locations

A location names a file, a line and a column.  The unknown location has an empty file.
-/

/-- A place in a source file. -/
structure Location where
  file : String := ""
  line : Nat := 0
  column : Nat := 0
  deriving Repr, DecidableEq, Inhabited

namespace Location

/-- The location of something that has none. -/
def unknown : Location := ⟨"", 0, 0⟩

/-- Whether the location names a file. -/
def isKnown
    (location : Location) :
    Bool :=
  !location.file.isEmpty

/-- The text `file:line:column`, or a remark that the location is unknown. -/
def text
    (location : Location) :
    String :=
  if location.isKnown then
    location.file ++ ":" ++ Text.ofNat location.line ++ ":" ++ Text.ofNat location.column
  else
    "<unknown location>"

end Location

end BindingStubs
