import BindingStubs.FileTree

namespace BindingStubs

/-!
# Changes of files

What has to be done to files so that they are as another file tree says: files that are new
or differ are written, directories that are new are created, and files that are gone are
removed.
-/

/-- A change of a file or a directory. -/
inductive FileChange where
  | makeDirectory (path : String)
  | write (path content : String)
  | remove (path : String)
  deriving Repr, DecidableEq

namespace FileTree

/-- The path of a list of names. -/
def pathOf
    (names : List String) :
    String :=
  String.intercalate "/" names

/-- The change that brings an entry about, if one is needed. -/
def changeTo?
    (tree : FileTree)
    (names : List String)
    (entry : FileEntry) :
    Option FileChange :=
  match entry, tree.entries.lookup names with
  | .file content .., some (.file before ..) =>
      if content = before then none else some (.write (pathOf names) content)
  | .file content .., _ => some (.write (pathOf names) content)
  | .directory _, some (.directory _) => none
  | .directory _, _ => some (.makeDirectory (pathOf names))

/-- The changes that lead from one file tree to another. -/
def changesTo
    (tree after : FileTree) :
    List FileChange :=
  (after.entries.filterMap fun entry => tree.changeTo? entry.1 entry.2)
    ++ tree.entries.filterMap fun entry =>
      if (after.entries.lookup entry.1).isSome then none else some (.remove (pathOf entry.1))

/-- A time after every change in the tree. -/
def timeAfter
    (tree : FileTree) :
    Nat :=
  (tree.entries.foldl (fun latest entry => max latest entry.2.modified) 0) + 1

end FileTree

end BindingStubs
