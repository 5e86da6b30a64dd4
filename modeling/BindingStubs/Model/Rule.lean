import BindingStubs.CppType.Spelling
import BindingStubs.CppType.Substitution
import BindingStubs.Location

namespace BindingStubs

/-!
# Type rules

A type rule says how the types that match its pattern are rendered.  The pattern may
contain the rule's parameters; rendering and declarations refer to them as names in
braces.  A rule without parameters matches a single type.
-/

/-- How the types that match a pattern are rendered. -/
structure TypeRule where
  pattern : CppType
  rendering : String
  parameters : List String
  declarations : List String
  location : Location
  deriving Repr, DecidableEq

namespace TypeRule

/-- Whether the rule matches a single type. -/
def isFull
    (rule : TypeRule) :
    Bool :=
  rule.parameters.isEmpty

/-- Whether a name is one of the rule's parameters. -/
def isParameter
    (rule : TypeRule)
    (name : String) :
    Bool :=
  rule.parameters.contains name

/-- The characters by which a text refers to a parameter. -/
def placeholder
    (parameter : String) :
    List Char :=
  '\x7b' :: parameter.toList ++ ['\x7d']

/-- The parameters in the order of their first occurrence in the pattern. -/
def parametersInOrder
    (rule : TypeRule) :
    List String :=
  (rule.pattern.baseNames.filter rule.isParameter).foldl
    (fun seen name => if seen.contains name then seen else seen ++ [name]) []

/-- The positional name of each parameter that occurs in the pattern. -/
def positionalNames
    (rule : TypeRule) :
    Keyed String :=
  ⟨rule.parametersInOrder.zipIdx.map fun entry => (entry.1, "$" ++ Text.ofNat entry.2)⟩

/-- A text with its parameter references renamed. -/
def renameReferences
    (renames : Keyed String)
    (text : String) :
    String :=
  Text.onCharacters
    (fun characters =>
      renames.entries.foldl
        (fun current entry =>
          Text.replaceAll (placeholder entry.1) (placeholder entry.2) current)
        characters)
    text

/-- A rule up to the names of its parameters. -/
structure CanonicalForm where
  pattern : CppType
  rendering : String
  declarations : List String
  deriving Repr, DecidableEq

/-- The rule with its parameters named by position, so that two rules that differ only in
parameter names have the same form. -/
def canonicalForm
    (rule : TypeRule) :
    CanonicalForm :=
  let renames := rule.positionalNames
  { pattern := rule.pattern.rename renames
    rendering := renameReferences renames rule.rendering
    declarations := rule.declarations.map (renameReferences renames) }

/-- A short description that names the pattern and where it was declared. -/
def describe
    (rule : TypeRule) :
    String :=
  let site := rule.pattern.text ++ " (at " ++ rule.location.text ++ ")"
  if rule.isFull then site
  else "template<" ++ String.intercalate ", " rule.parameters ++ "> " ++ site

/-- The bucket key of rules whose pattern is itself a parameter. -/
def wildcardKey : String := "*"

/-- The bucket in which a rule is kept. -/
def bucketKey
    (rule : TypeRule) :
    String :=
  if rule.isParameter rule.pattern.baseName then wildcardKey else rule.pattern.name

end TypeRule

end BindingStubs
