import BindingStubs.Extraction.Shape
import BindingStubs.Model.Rule

namespace BindingStubs

/-!
# Type exporters

A record that derives from the exporter base declares a type rule.  Its template argument
is the pattern, its template parameters are the parameters of the rule, and two of its
members give the rendering and the declarations that go with it.
-/

namespace Exporter

open Shape

/-- The idiom named in faults. -/
def idiom : String := "TypeExporter"

/-- The member that gives the rendering. -/
def renderingMember : String := "py_type"

/-- The member that gives declarations. -/
def declarationsMember : String := "py_declarations"

/-- Whether a record derives from the exporter base. -/
def isExporter
    (unit : TranslationUnit)
    (record : NodeId) :
    Bool :=
  (unit.childrenOfKind record .baseSpecifier).any fun base =>
    let name :=
      match unit.type? base with
      | some type => type.name
      | none => unit.spelling base
    let written := String.ofList (Idiom.dropGlobalScope name.toList)
    written == Idiom.exporterBase || written == "TypeExporter"

/-- Whether a text is spaces and tabs up to a line end, and what follows it. -/
def blankLineRest? : List Char → Option (List Char)
  | '\n' :: rest => some rest
  | ' ' :: rest => blankLineRest? rest
  | '\t' :: rest => blankLineRest? rest
  | _ => none

/-- Split at blank lines, after passing over `skip` characters of the last one. -/
def splitBlankLinesAfter :
    Nat → List Char → List (List Char)
  | _, [] => [[]]
  | skip + 1, _ :: rest => splitBlankLinesAfter skip rest
  | 0, character :: rest =>
      match (if character = '\n' then blankLineRest? rest else none) with
      | some after => [] :: splitBlankLinesAfter (rest.length - after.length) rest
      | none =>
          match splitBlankLinesAfter 0 rest with
          | piece :: pieces => (character :: piece) :: pieces
          | [] => [[character]]

/-- The declarations in a text, which blank lines separate. -/
def splitDeclarations
    (text : String) :
    List String :=
  ((splitBlankLinesAfter 0 text.toList).map Text.trim).filterMap fun piece =>
    if piece.isEmpty then none else some (String.ofList piece)

/-- The text of a member, if the record has it. -/
def memberText?
    (unit : TranslationUnit)
    (record : NodeId)
    (name : String) :
    Except Fault (Option String) :=
  match (unit.childrenOfKind record .variableDeclaration).find? fun id =>
      unit.spelling id == name with
  | none => .ok none
  | some member =>
      match (unit.children member).find? fun id => unit.kind id != .other with
      | none => mismatch unit idiom member ("`" ++ name ++ "` has no initializer")
      | some initializer => (stringLiteral unit idiom initializer).map some

/-- The position in the canonical spelling of a template parameter, which gives its depth
and its position. -/
def canonicalPosition?
    (name : String) :
    Option Nat := do
  let numbers ← "type-parameter-".toList.isPrefixOf? name.toList
  let depth := numbers.takeWhile Text.isDecimalDigit
  match numbers.dropWhile Text.isDecimalDigit with
  | '-' :: position =>
      if depth.isEmpty || !(position.all Text.isDecimalDigit) then none
      else Text.readNat? (Width.limit 64) position
  | _ => none

/-- A pattern with canonical parameter spellings replaced by the declared names. -/
def nameParameters
    (parameters : List String)
    (pattern : CppType) :
    CppType :=
  let renames :=
    pattern.baseNames.filterMap fun name =>
      ((canonicalPosition? name).bind (parameters[·]?)).map fun declared => (name, declared)
  pattern.rename (Keyed.ofList renames)

/-- The rule that an exporter declares. -/
def rule
    (unit : TranslationUnit)
    (record : NodeId) :
    Except Fault TypeRule := do
  match unit.childrenOfKind record .templateArgument with
  | [argument] =>
      match unit.type? argument with
      | none => mismatch unit idiom argument "template argument has no type"
      | some matched =>
          let parameters :=
            ((unit.children record).filter fun id =>
              unit.kind id == .templateTypeParameter
                || unit.kind id == .nonTypeTemplateParameter).map unit.spelling
          match ← memberText? unit record renderingMember with
          | none =>
              mismatch unit idiom record
                ("exporter declares no `" ++ renderingMember ++ "` member")
          | some rendering =>
              let declarations ← memberText? unit record declarationsMember
              return {
                pattern := nameParameters parameters matched
                rendering
                parameters
                declarations := (declarations.map splitDeclarations).getD []
                location := unit.location record }
  | arguments =>
      mismatch unit idiom record
        ("expected exactly one template argument, found " ++ Text.ofNat arguments.length)

end Exporter

end BindingStubs
