import BindingStubs.CppType.Basic
import BindingStubs.Keyed

namespace BindingStubs

/-!
# Substitution of type parameters

A node without arguments whose base name is bound is replaced by the binding, under the
pointer levels of the node.  Nodes with arguments keep their names.
-/

/-- Types bound to parameter names. -/
abbrev Bindings := Keyed CppType

namespace CppType

mutual

/-- Replace bound names by their bindings. -/
def substitute
    (bindings : Bindings) :
    CppType → CppType
  | .plain name =>
      match bindings.get? (CppType.plain name).baseName with
      | some bound => bound.addPointers (CppType.plain name).pointerDepth
      | none => .plain name
  | .applied name arguments => .applied name (substituteList bindings arguments)

/-- Replace bound names in every type of a list. -/
def substituteList
    (bindings : Bindings) :
    List CppType → List CppType
  | [] => []
  | type :: rest => substitute bindings type :: substituteList bindings rest

end

/-- Replace names by names. -/
def rename
    (renames : Keyed String)
    (type : CppType) :
    CppType :=
  type.substitute (renames.map CppType.plain)

end CppType

end BindingStubs
