import BindingStubs.Text.Decimal

namespace BindingStubs

/-!
# Names of parameters

The parameters of a rendered callable need distinct names that are no Python keywords.
A name that is not available gets underscores appended.
-/

namespace ParameterName

/-- The reserved words of Python. -/
def keywords : List String :=
  ["False", "None", "True", "and", "as", "assert", "async", "await", "break", "class",
   "continue", "def", "del", "elif", "else", "except", "finally", "for", "from", "global",
   "if", "import", "in", "is", "lambda", "nonlocal", "not", "or", "pass", "raise", "return",
   "try", "while", "with", "yield"]

/-- A name as an identifier: an unnamed parameter is called after its position, and a
keyword gets an underscore. -/
def identifier
    (name : String)
    (position : Nat) :
    String :=
  if name.isEmpty then "arg" ++ Text.ofNat position
  else if keywords.contains name then name ++ "_"
  else name

/-- Append underscores until the name is not taken, at most `tries` of them. -/
def freshWithin
    (taken : List String) :
    (tries : Nat) → String → String
  | 0, name => name
  | tries + 1, name =>
      if taken.contains name then freshWithin taken tries (name ++ "_") else name

/-- The shortest extension of a name by underscores that is not taken.  Each underscore
gives another name, so there are fewer of them than taken names. -/
def fresh
    (taken : List String)
    (name : String) :
    String :=
  freshWithin taken (taken.length + 1) name

/-- The name of the parameter at a position, given the names taken before it. -/
def choose
    (hasReceiver : Bool)
    (taken : List String)
    (name : String)
    (position : Nat) :
    String :=
  let wanted := identifier name position
  fresh taken (if hasReceiver && wanted == "self" then wanted ++ "_" else wanted)

/-- The names of all parameters from a position on. -/
def chooseFrom
    (hasReceiver : Bool) :
    (taken : List String) → (position : Nat) → List String → List String
  | _, _, [] => []
  | taken, position, name :: rest =>
      let chosen := choose hasReceiver taken name position
      chosen :: chooseFrom hasReceiver (taken ++ [chosen]) (position + 1) rest

/-- The names under which parameters are rendered. -/
def chooseAll
    (hasReceiver : Bool)
    (names : List String) :
    List String :=
  chooseFrom hasReceiver [] 0 names

end ParameterName

end BindingStubs
