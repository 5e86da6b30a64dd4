import BindingStubs.Extraction.Call
import BindingStubs.Extraction.Exporter
import BindingStubs.Extraction.Traversal

namespace BindingStubs

/-!
# Extraction of a fragment

The registrations of a translation unit, in the order of the traversal, build the fragment
of the binding model that the unit declares.
-/

namespace Extraction

/-- The registrations that a visit finds.  Calls inside the namespace of the embedding
layer are its implementation, but its exporters count. -/
def registrationsAt
    (unit : TranslationUnit)
    (visit : Visit) :
    Except Fault (List Registration) :=
  match unit.kind visit.node with
  | .call =>
      if visit.inLayer then .ok []
      else
        match Idiom.ofSpelling? (unit.spelling visit.node), unit.type? visit.node with
        | some idiom, some result =>
            if idiom.accepts result then
              RegistrationCall.registrations unit idiom visit.node
            else .ok []
        | _, _ => .ok []
  | .structDeclaration | .classDeclaration | .partialSpecialization =>
      if Exporter.isExporter unit visit.node then
        (Exporter.rule unit visit.node).map fun rule => [.addRule rule]
      else .ok []
  | _ => .ok []

/-- Register what a visit finds. -/
def inspect
    (unit : TranslationUnit)
    (visit : Visit) :
    Registering Unit :=
  match registrationsAt unit visit with
  | .error fault => throw fault
  | .ok registrations => Registration.performAll registrations

/-- The fragment of the binding model that a translation unit declares. -/
def extract
    (unit : TranslationUnit) :
    Except Fault BindingModel :=
  match Traversal.walk unit (inspect unit) BindingModel.empty with
  | .ok _ model => .ok model
  | .error fault _ => .error fault

end Extraction

end BindingStubs
