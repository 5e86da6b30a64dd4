import BindingStubs.Failure
import BindingStubs.FilePath
import BindingStubs.Stub.Rendering

namespace BindingStubs

/-!
# Emission of stubs

Every module that this run is responsible for is rendered, in the order of discovery.
Without an output directory the stubs are printed one after the other.
-/

/-- Append the parts of a dotted name to a directory, the last one as a stub file. -/
def Stub.appendParts
    (path : String) :
    List (List Char) → String
  | [] => path
  | [last] => FilePath.join path (String.ofList last ++ ".pyi")
  | part :: next :: rest =>
      appendParts (FilePath.join path (String.ofList part)) (next :: rest)

/-- The file of a stub below a directory: the module `a.b.c` is written to `a/b/c.pyi`. -/
def Stub.pathBelow
    (directory : String)
    (stub : Stub) :
    String :=
  Stub.appendParts directory (stub.module.toList.splitOn '.')

namespace Emission

/-- Render modules in order, up to the first that fails. -/
def renderModules
    (model : BindingModel) :
    List Module → Except Failure (List Stub)
  | [] => .ok []
  | entity :: rest =>
      match Rendering.renderModule model entity with
      | .error fault =>
          .error ((Failure.ofFault fault).withNote
            ("while emitting module `" ++ entity.pythonName ++ "`"))
      | .ok stub => (renderModules model rest).map (stub :: ·)

/-- Render every module of this run. -/
def renderAll
    (model : BindingModel) :
    Except Failure (List Stub) :=
  renderModules model (model.modules.filter fun entity => !entity.imported)

/-- The stubs as one text, each under a line that names its module. -/
def print
    (stubs : List Stub) :
    String :=
  String.join (stubs.map fun stub => "# module " ++ stub.module ++ "\n" ++ stub.text)

end Emission

end BindingStubs
