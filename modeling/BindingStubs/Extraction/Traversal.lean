import BindingStubs.Extraction.Idiom
import BindingStubs.Model.Definitions
import BindingStubs.Tree.Unit

namespace BindingStubs

/-!
# Traversal of a translation unit

Nodes are visited after their children, so that the inner calls of a chain come before the
outer ones.  Templates are left out with everything below them: their patterns and implicit
instantiations are no registrations.  A visit knows whether it happens inside the namespace
of the embedding layer.

The traversal keeps what is left to do on a stack, since a syntax tree may be deep.
-/

/-- One visit of a node. -/
structure Visit where
  node : NodeId
  inLayer : Bool
  deriving Repr, DecidableEq

namespace Traversal

/-- Whether a node is the namespace of the embedding layer. -/
def isEmbeddingNamespace
    (unit : TranslationUnit)
    (id : NodeId) :
    Bool :=
  unit.kind id == .nameSpace && unit.spelling id == Idiom.embeddingNamespace
    && ((unit.node id).parent.map unit.kind) == some .translationUnit

/-- Whether a node is left out with everything below it. -/
def isTemplate
    (unit : TranslationUnit)
    (id : NodeId) :
    Bool :=
  unit.kind id == .classTemplate || unit.kind id == .functionTemplate

/-- What is left to do on the stack: a node that was not entered, with the flag of its parent, or
the visit of a node whose children lie above it on the stack. -/
inductive Pending where
  | enter (id : NodeId) (inLayer : Bool)
  | visit (visit : Visit)
  deriving Repr, DecidableEq

/-- Work off the stack in so many steps, and inspect one visit after the other up to the first
fault. -/
def walkWithin
    {State : Type}
    (unit : TranslationUnit)
    (inspect : Visit → Change State Unit) :
    (steps : Nat) → List Pending → Change State Unit
  | 0, _ => return
  | _ + 1, [] => return
  | steps + 1, .visit visit :: rest => do
      inspect visit
      walkWithin unit inspect steps rest
  | steps + 1, .enter id inLayer :: rest =>
      if isTemplate unit id then walkWithin unit inspect steps rest
      else
        let inside := inLayer || isEmbeddingNamespace unit id
        walkWithin unit inspect steps
          ((unit.children id).map (Pending.enter · inside)
            ++ .visit { node := id, inLayer := inside } :: rest)

/-- Inspect the visits of a unit.  A node is entered and visited at most once, so twice the number
of nodes bounds the steps. -/
def walk
    {State : Type}
    (unit : TranslationUnit)
    (inspect : Visit → Change State Unit) :
    Change State Unit :=
  walkWithin unit inspect (2 * unit.nodes.size) [.enter TranslationUnit.root false]

end Traversal

end BindingStubs
