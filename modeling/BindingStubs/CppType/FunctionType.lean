import BindingStubs.CppType.Spelling

namespace BindingStubs

/-!
# Function types

A function type is spelled `R (A, B) const`.  It is split at the first parenthesis
outside angle brackets and at the parenthesis that matches it; what follows is ignored.
-/

/-- The return type and the parameter types of a function type, as spelled. -/
structure FunctionType where
  returns : List Char
  parameters : List (List Char)
  deriving Repr, DecidableEq

namespace FunctionType

/-- Split before and behind the first opening parenthesis outside angle brackets. -/
def splitAtOpen :
    Int → List Char → Option (List Char × List Char)
  | _, [] => none
  | angle, character :: rest =>
      let keep (found : Option (List Char × List Char)) :=
        found.map fun parts => (character :: parts.1, parts.2)
      if character = '<' then keep (splitAtOpen (angle + 1) rest)
      else if character = '>' then keep (splitAtOpen (angle - 1) rest)
      else if character = '(' ∧ angle = 0 then some ([], rest)
      else keep (splitAtOpen angle rest)

/-- Split before and behind the parenthesis that closes `depth` open ones. -/
def splitAtClose :
    Nat → List Char → Option (List Char × List Char)
  | _, [] => none
  | depth, character :: rest =>
      let keep (found : Option (List Char × List Char)) :=
        found.map fun parts => (character :: parts.1, parts.2)
      if character = '(' then keep (splitAtClose (depth + 1) rest)
      else if character = ')' then
        if depth ≤ 1 then some ([], rest) else keep (splitAtClose (depth - 1) rest)
      else keep (splitAtClose depth rest)

/-- Whether a piece between commas spells a parameter. -/
def isParameter
    (piece : List Char) :
    Bool :=
  !piece.isEmpty && piece != "void".toList && piece != "...".toList

/-- Split the spelling of a function type. -/
def split?
    (text : List Char) :
    Option FunctionType :=
  match splitAtOpen 0 text with
  | none => none
  | some (before, rest) =>
      match splitAtClose 1 rest with
      | none => none
      | some (inside, _) =>
          some
            { returns := Text.trim before
              parameters := (Spelling.splitTopLevel inside).filter isParameter }

end FunctionType

end BindingStubs
