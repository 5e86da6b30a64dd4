import BindingStubs.Text.Basic

namespace BindingStubs

/-!
# File paths

A path is kept as its text.  Two texts are the same path when they have the same
components: repeated separators, a trailing separator and inner dots do not count.
-/

/-- One step of a path. -/
inductive PathComponent where
  | root
  | current
  | parent
  | normal (name : String)
  deriving Repr, DecidableEq

namespace FilePath

/-- Whether a path starts at the root. -/
def isAbsolute
    (path : String) :
    Bool :=
  path.toList.head? == some '/'

/-- The component of a name between separators; an empty name and an inner dot are none. -/
def component?
    (name : List Char) :
    Option PathComponent :=
  if name.isEmpty || name == ['.'] then none
  else if name == ['.', '.'] then some .parent
  else some (.normal (String.ofList name))

/-- The components of a path; only a leading dot of a relative path counts as one. -/
def components
    (path : String) :
    List PathComponent :=
  let names := path.toList.splitOn '/'
  let rest := names.filterMap component?
  if isAbsolute path then .root :: rest
  else if names.head? == some ['.'] then .current :: rest
  else rest

/-- Whether two texts are the same path. -/
def same
    (first second : String) :
    Bool :=
  components first == components second

/-- The text of a component. -/
def componentText : PathComponent → String
  | .root => "/"
  | .current => "."
  | .parent => ".."
  | .normal name => name

/-- Join a relative path to a base; an absolute path replaces the base. -/
def join
    (base path : String) :
    String :=
  if isAbsolute path then path
  else if base.isEmpty || base.toList.getLast? == some '/' then base ++ path
  else base ++ "/" ++ path

/-- Drop from a reversed list of names those that are no components: empty ones, and dots
that do not lead the path. -/
def dropUncounted : List (List Char) → List (List Char)
  | [] => []
  | name :: rest =>
      if name.isEmpty || (name == ['.'] && !rest.isEmpty) then dropUncounted rest
      else name :: rest

/-- The text without its last component; the root and the empty path have no parent. -/
def parent?
    (path : String) :
    Option String :=
  match (components path).getLast? with
  | none => none
  | some .root => none
  | some _ =>
      let names := (path.toList.splitOn '/').reverse
      let above := dropUncounted ((dropUncounted names).drop 1)
      let text := String.ofList (List.intercalate ['/'] above.reverse)
      if isAbsolute path && text.isEmpty then some "/" else some text

/-- The last component if it is a name. -/
def fileName?
    (path : String) :
    Option String :=
  match (components path).getLast? with
  | some (.normal name) => some name
  | _ => none

/-- What follows the last dot of the file name, unless the dot starts the name. -/
def extension?
    (path : String) :
    Option String :=
  match fileName? path with
  | none => none
  | some name =>
      let reversed := name.toList.reverse
      let after := (reversed.takeWhile (· != '.')).reverse
      let before := (reversed.dropWhile (· != '.')).drop 1
      if after.length = name.length || before.isEmpty then none
      else some (String.ofList after)

/-- The order of components: the root, a dot, two dots, then names by their characters. -/
def componentRank : PathComponent → Nat × String
  | .root => (0, "")
  | .current => (1, "")
  | .parent => (2, "")
  | .normal name => (3, name)

/-- Whether a list of components comes before another or is the same. -/
def componentsLe : List PathComponent → List PathComponent → Bool
  | [], _ => true
  | _ :: _, [] => false
  | first :: firstRest, second :: secondRest =>
      if first = second then componentsLe firstRest secondRest
      else
        let one := componentRank first
        let two := componentRank second
        decide (one.1 < two.1) || (one.1 == two.1 && decide (one.2 < two.2))

/-- Paths in the order of their components. -/
def sort
    (paths : List String) :
    List String :=
  paths.mergeSort fun first second => componentsLe (components first) (components second)

/-- The components of a path behind those of a base. -/
def below?
    (base path : String) :
    Option (List PathComponent) :=
  (components base).isPrefixOf? (components path)

/-- The text of components below a base. -/
def textOfComponents
    (parts : List PathComponent) :
    String :=
  String.intercalate "/" (parts.map componentText)

/-- Append a path to a list unless it is already there. -/
def insertNew
    (paths : List String)
    (path : String) :
    List String :=
  if paths.any (same path) then paths else paths ++ [path]

end FilePath

end BindingStubs
