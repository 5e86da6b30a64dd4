import BindingStubs.Failure
import BindingStubs.FilePath

namespace BindingStubs

/-!
# File trees

A file tree holds the files and directories below a working directory, each under the list
of names that leads to it.  A path is followed step by step, and every step must start at a
directory.  What lies outside the working directory is absent.

The time of a change is its nanoseconds since the start of 1970, as a natural number.  A program
that keeps only 64 bits of them reads the same times: the limit is reached in the year 2554, and no
current time is near it.
-/

/-- What stands under a path. -/
inductive FileEntry where
  | file (content : String) (modified : Nat) (isExecutable : Bool)
  | directory (modified : Nat)
  deriving Repr, DecidableEq

namespace FileEntry

/-- Whether the entry is a directory. -/
def isDirectory : FileEntry → Bool
  | .file .. => false
  | .directory _ => true

/-- When the entry was changed last, in nanoseconds since the start of 1970. -/
def modified : FileEntry → Nat
  | .file _ modified _ => modified
  | .directory modified => modified

end FileEntry

/-- The files and directories below a working directory. -/
structure FileTree where
  entries : List (List String × FileEntry) := []
  deriving Repr, DecidableEq, Inhabited

namespace FileTree

/-- The entry under a list of names; the working directory is always there. -/
def entryAt?
    (tree : FileTree) :
    List String → Option FileEntry
  | [] => some (.directory 0)
  | names => tree.entries.lookup names

/-- Put an entry under a list of names in a list of entries. -/
def setEntry
    (names : List String)
    (entry : FileEntry) :
    List (List String × FileEntry) → List (List String × FileEntry)
  | [] => [(names, entry)]
  | other :: rest =>
      if names == other.1 then (other.1, entry) :: rest
      else other :: setEntry names entry rest

/-- Put an entry under a list of names. -/
def set
    (tree : FileTree)
    (names : List String)
    (entry : FileEntry) :
    FileTree :=
  ⟨setEntry names entry tree.entries⟩

/-- Drop the entry under a list of names. -/
def erase
    (tree : FileTree)
    (names : List String) :
    FileTree :=
  ⟨tree.entries.filter fun other => names != other.1⟩

/-- Follow the names of a path from a place.  An empty name and a dot stay where they are,
two dots lead up. -/
def walk
    (tree : FileTree) :
    (place : List String) → List (List Char) → Except OsError (List String)
  | place, [] => .ok place
  | place, name :: rest =>
      match tree.entryAt? place with
      | some (.directory _) =>
          if name.isEmpty || name == ['.'] then tree.walk place rest
          else if name == ['.', '.'] then tree.walk place.dropLast rest
          else tree.walk (place ++ [String.ofList name]) rest
      | some (.file ..) => .error .notADirectory
      | none => .error .notFound

/-- The names that a path leads to.  The last of them may be absent. -/
def locate
    (tree : FileTree)
    (path : String) :
    Except OsError (List String) :=
  if path.isEmpty || FilePath.isAbsolute path then .error .notFound
  else tree.walk [] (path.toList.splitOn '/')

/-- The entry at a path. -/
def at?
    (tree : FileTree)
    (path : String) :
    Except OsError FileEntry :=
  match tree.locate path with
  | .error error => .error error
  | .ok names =>
      match tree.entryAt? names with
      | some entry => .ok entry
      | none => .error .notFound

/-- Whether a path leads to an entry. -/
def isPresent
    (tree : FileTree)
    (path : String) :
    Bool :=
  match tree.at? path with
  | .ok _ => true
  | .error _ => false

/-- Whether a path leads to a directory. -/
def isDirectory
    (tree : FileTree)
    (path : String) :
    Bool :=
  match tree.at? path with
  | .ok entry => entry.isDirectory
  | .error _ => false

/-- Whether a path leads to a file. -/
def isFile
    (tree : FileTree)
    (path : String) :
    Bool :=
  match tree.at? path with
  | .ok entry => !entry.isDirectory
  | .error _ => false

/-- When the entry at a path was changed last. -/
def modified?
    (tree : FileTree)
    (path : String) :
    Option Nat :=
  match tree.at? path with
  | .ok entry => some entry.modified
  | .error _ => none

/-- The content of a file. -/
def read
    (tree : FileTree)
    (path : String) :
    Except OsError String :=
  match tree.at? path with
  | .ok (.file content _ _) => .ok content
  | .ok (.directory _) => .error .isADirectory
  | .error error => .error error

/-- Write a file.  A file that was there stays as executable as it was. -/
def write
    (tree : FileTree)
    (path content : String)
    (modified : Nat) :
    Except OsError FileTree :=
  match tree.locate path with
  | .error error => .error error
  | .ok names =>
      match tree.entryAt? names with
      | some (.directory _) => .error .isADirectory
      | some (.file _ _ isExecutable) => .ok (tree.set names (.file content modified isExecutable))
      | none => .ok (tree.set names (.file content modified false))

/-- Remove a file. -/
def remove
    (tree : FileTree)
    (path : String) :
    Except OsError FileTree :=
  match tree.locate path with
  | .error error => .error error
  | .ok names =>
      match tree.entryAt? names with
      | some (.directory _) => .error .isADirectory
      | some (.file ..) => .ok (tree.erase names)
      | none => .error .notFound

/-- Set the modification time of a file, if it is there. -/
def touch
    (tree : FileTree)
    (path : String)
    (modified : Nat) :
    FileTree :=
  match tree.locate path with
  | .error _ => tree
  | .ok names =>
      match tree.entryAt? names with
      | some (.file content _ isExecutable) =>
          tree.set names (.file content modified isExecutable)
      | _ => tree

/-- A path without separators at its end. -/
def withoutTrailingSeparators
    (path : String) :
    String :=
  Text.onCharacters (Text.dropTrailing (· == '/')) path

/-- Create a directory in a directory that is there. -/
def makeDirectory
    (tree : FileTree)
    (path : String)
    (modified : Nat) :
    Except OsError FileTree :=
  match tree.locate (withoutTrailingSeparators path) with
  | .error error => .error error
  | .ok names =>
      match tree.entryAt? names with
      | some _ => .error .fileExists
      | none => .ok (tree.set names (.directory modified))

/-- Create a directory and up to a number of directories above it. -/
def makeDirectoriesWithin
    (modified : Nat) :
    (levels : Nat) → FileTree → String → Except OsError FileTree
  | 0, tree, _ => .ok tree
  | levels + 1, tree, path =>
      if path.isEmpty then .ok tree
      else
        match tree.makeDirectory path modified with
        | .ok made => .ok made
        | .error .notFound =>
            match FilePath.parent? path with
            | none => .error .notFound
            | some parent =>
                match makeDirectoriesWithin modified levels tree parent with
                | .error error => .error error
                | .ok above => above.makeDirectory path modified
        | .error error => if tree.isDirectory path then .ok tree else .error error

/-- Create a directory and the directories above it that are missing.  A path has fewer
levels than characters. -/
def makeDirectories
    (tree : FileTree)
    (path : String)
    (modified : Nat) :
    Except OsError FileTree :=
  makeDirectoriesWithin modified (path.length + 1) tree path

/-- Write a file after creating the directories above it. -/
def place
    (tree : FileTree)
    (path content : String)
    (modified : Nat)
    (isExecutable : Bool) :
    FileTree :=
  let parents :=
    match FilePath.parent? path with
    | some parent => (tree.makeDirectories parent modified).toOption.getD tree
    | none => tree
  match parents.locate path with
  | .error _ => parents
  | .ok names => parents.set names (.file content modified isExecutable)

/-- The files below a list of names: for each the names that follow and its content. -/
def filesBelow
    (tree : FileTree)
    (place : List String) :
    List (List String × String) :=
  tree.entries.filterMap fun entry =>
    match place.isPrefixOf? entry.1, entry.2 with
    | some rest, .file content _ _ => some (rest, content)
    | _, _ => none

end FileTree

end BindingStubs
