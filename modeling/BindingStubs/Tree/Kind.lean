namespace BindingStubs

/-!
# Kinds of syntax nodes

The kinds that extraction tells apart.  Everything it never looks at is `other`.
-/

/-- The kind of a node in the syntax tree of a translation unit. -/
inductive NodeKind where
  | translationUnit
  | nameSpace
  | structDeclaration
  | classDeclaration
  | partialSpecialization
  | classTemplate
  | functionTemplate
  | enumDeclaration
  | enumerator
  | function
  | method
  | constructor
  | field
  | variableDeclaration
  | parameter
  | templateTypeParameter
  | nonTypeTemplateParameter
  | templateArgument
  | baseSpecifier
  | call
  | construct
  | lambda
  | memberReference
  | declarationReference
  | stringLiteral
  | integerLiteral
  | floatingLiteral
  | boolLiteral
  | nullPointerLiteral
  | initializerList
  | binaryOperator
  | unaryOperator
  | implicitCast
  | parenthesized
  /-- A wrapper that keeps the value: temporaries, cleanups, constant folding. -/
  | unexposed
  | defaultArgument
  | compoundStatement
  | returnStatement
  | declarationStatement
  | other
  deriving Repr, DecidableEq, Inhabited

namespace NodeKind

/-- Every kind, in the order of declaration. -/
def all : List NodeKind :=
  [.translationUnit, .nameSpace, .structDeclaration, .classDeclaration, .partialSpecialization,
   .classTemplate, .functionTemplate, .enumDeclaration, .enumerator, .function, .method,
   .constructor, .field, .variableDeclaration, .parameter, .templateTypeParameter,
   .nonTypeTemplateParameter, .templateArgument, .baseSpecifier, .call, .construct, .lambda,
   .memberReference, .declarationReference, .stringLiteral, .integerLiteral, .floatingLiteral,
   .boolLiteral, .nullPointerLiteral, .initializerList, .binaryOperator, .unaryOperator,
   .implicitCast, .parenthesized, .unexposed, .defaultArgument, .compoundStatement,
   .returnStatement, .declarationStatement, .other]

/-- Whether a node of this kind never changes the meaning of the expression it wraps. -/
def isTransparent : NodeKind → Bool
  | .implicitCast | .parenthesized | .unexposed => true
  | _ => false

/-- Whether a node of this kind declares a struct or class. -/
def isRecord : NodeKind → Bool
  | .structDeclaration | .classDeclaration => true
  | _ => false

/-- Whether a node of this kind declares something that can be called. -/
def isFunctionLike : NodeKind → Bool
  | .function | .method | .constructor => true
  | _ => false

/-- The words for a kind in diagnostics. -/
def text : NodeKind → String
  | .translationUnit => "translation unit"
  | .nameSpace => "namespace"
  | .structDeclaration => "struct declaration"
  | .classDeclaration => "class declaration"
  | .partialSpecialization => "partial specialization"
  | .classTemplate => "class template"
  | .functionTemplate => "function template"
  | .enumDeclaration => "enum declaration"
  | .enumerator => "enumerator"
  | .function => "function"
  | .method => "method"
  | .constructor => "constructor"
  | .field => "field"
  | .variableDeclaration => "variable"
  | .parameter => "parameter"
  | .templateTypeParameter => "template type parameter"
  | .nonTypeTemplateParameter => "non-type template parameter"
  | .templateArgument => "template argument"
  | .baseSpecifier => "base specifier"
  | .call => "call expression"
  | .construct => "construct expression"
  | .lambda => "lambda expression"
  | .memberReference => "member reference"
  | .declarationReference => "declaration reference"
  | .stringLiteral => "string literal"
  | .integerLiteral => "integer literal"
  | .floatingLiteral => "floating literal"
  | .boolLiteral => "bool literal"
  | .nullPointerLiteral => "nullptr literal"
  | .initializerList => "initializer list"
  | .binaryOperator => "binary operator"
  | .unaryOperator => "unary operator"
  | .implicitCast => "implicit cast"
  | .parenthesized => "parenthesized expression"
  | .unexposed => "unexposed expression"
  | .defaultArgument => "default argument"
  | .compoundStatement => "compound statement"
  | .returnStatement => "return statement"
  | .declarationStatement => "declaration statement"
  | .other => "other"

end NodeKind

end BindingStubs
