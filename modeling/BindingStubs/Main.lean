import BindingStubs.FileChange
import BindingStubs.Tool

namespace BindingStubs.Main

/-!
# The command line

The files below the working directory are loaded, a command acts on them, and what it has
changed is written back.  Scripts are what may be executed.
-/

/-- Whether a file is a script. -/
def isScript
    (content : String) :
    Bool :=
  ['#', '!'].isPrefixOf content.toList

/-- Nanoseconds since the epoch. -/
def nanoseconds
    (time : IO.FS.SystemTime) :
    Nat :=
  time.sec.toNat * 1000000000 + time.nsec.toNat

/-- Load what is below a directory; content that is no text counts as empty. -/
partial def load
    (names : List String)
    (tree : FileTree) :
    IO FileTree := do
  let place := (← IO.currentDir) / FileTree.pathOf names
  (← place.readDir).foldlM
    (fun loaded found => do
      let below := names ++ [found.fileName]
      let data ← found.path.metadata
      let modified := nanoseconds data.modified
      if ← found.path.isDir then load below (loaded.set below (.directory modified))
      else
        let content := (String.fromUTF8? (← IO.FS.readBinFile found.path)).getD ""
        return loaded.set below (.file content modified (isScript content)))
    tree

/-- Bring a change about. -/
def apply : FileChange → IO Unit
  | .makeDirectory path => IO.FS.createDirAll path
  | .write path content => IO.FS.writeFile path content
  | .remove path => IO.FS.removeFile path

end BindingStubs.Main

/-- Run the tool on the files below the working directory. -/
def main
    (arguments : List String) :
    IO UInt32 := do
  let files ← BindingStubs.Main.load [] {}
  let executable ← IO.appPath
  let (result, world) :=
    BindingStubs.Tool.run { executable := executable.toString, userCache := none } arguments
      { files, clock := files.timeAfter }
  (files.changesTo world.files).forM BindingStubs.Main.apply
  IO.print result.output
  IO.eprint result.errors
  return result.code.toUInt32
