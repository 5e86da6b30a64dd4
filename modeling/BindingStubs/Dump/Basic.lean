import BindingStubs.Json.Basic
import BindingStubs.Tree.Kind

namespace BindingStubs

/-!
# Syntax dumps

A compiler prints the syntax tree of a translation unit as nested records.  Only the fields
that matter for registrations are kept.  A position leaves out what it shares with the
position printed before it.
-/

/-- A position as it is printed; an absent file or line is that of the position before. -/
structure PrintedPosition where
  file : Option String
  line : Option Nat
  column : Option Nat
  deriving Repr, DecidableEq

/-- The positions printed for one location.  Inside a macro expansion the place of the
spelling comes first; the last position is the location itself if `isSite` holds. -/
structure PrintedLocation where
  positions : List PrintedPosition := [⟨none, none, none⟩]
  isSite : Bool := true
  deriving Repr, DecidableEq

/-- A type as it is written and, when that differs, without its aliases. -/
structure PrintedType where
  written : Option String
  desugared : Option String
  deriving Repr, DecidableEq

/-- The most explicit spelling of a type. -/
def PrintedType.spelling?
    (type : PrintedType) :
    Option String :=
  type.desugared <|> type.written

/-- What an expression says about the declaration it refers to. -/
structure PrintedReference where
  id : String
  kind : NodeKind
  name : Option String
  type : Option PrintedType
  deriving Repr, DecidableEq

/-- The record of one node without the nodes inside it. -/
structure DumpEntry where
  id : String
  kind : String
  tag : Option String
  name : Option String
  location : PrintedLocation
  rangeStart : PrintedLocation
  rangeEnd : PrintedLocation
  type : Option PrintedType
  referenced : Option PrintedReference
  referencedMember : Option String
  value : Option Json
  operator : Option String
  storageClass : Option String
  bases : List (Option PrintedType)
  constructorType : Option PrintedType
  deriving Repr

/-- A node of a dump. -/
inductive DumpNode where
  | node (entry : DumpEntry) (inner : List DumpNode)
  deriving Repr

namespace DumpNode

/-- The record of a node. -/
def entry : DumpNode → DumpEntry
  | .node entry _ => entry

/-- The nodes inside a node. -/
def inner : DumpNode → List DumpNode
  | .node _ inner => inner

end DumpNode

namespace DumpEntry

/-- The kind word of the root. -/
def rootKind : String := "TranslationUnitDecl"

/-- The kind word of a folded constant. -/
def constantKind : String := "ConstantExpr"

/-- The kind words of casts and parentheses around a callee. -/
def calleeWrappers : List String := ["ImplicitCastExpr", "ParenExpr"]

/-- The kind words of structs and classes. -/
def recordKinds : List String :=
  ["CXXRecordDecl", "RecordDecl", "ClassTemplateSpecializationDecl"]

/-- The kinds of the words that a dump uses for nodes other than records. -/
def kindWords : List (String × NodeKind) :=
  [("NamespaceDecl", .nameSpace),
   ("ClassTemplatePartialSpecializationDecl", .partialSpecialization),
   ("ClassTemplateDecl", .classTemplate),
   ("FunctionTemplateDecl", .functionTemplate),
   ("EnumDecl", .enumDeclaration),
   ("EnumConstantDecl", .enumerator),
   ("FunctionDecl", .function),
   ("CXXMethodDecl", .method),
   ("CXXConversionDecl", .method),
   ("CXXConstructorDecl", .constructor),
   ("FieldDecl", .field),
   ("VarDecl", .variableDeclaration),
   ("ParmVarDecl", .parameter),
   ("TemplateTypeParmDecl", .templateTypeParameter),
   ("NonTypeTemplateParmDecl", .nonTypeTemplateParameter),
   ("TemplateArgument", .templateArgument),
   ("CallExpr", .call),
   ("CXXMemberCallExpr", .call),
   ("CXXOperatorCallExpr", .call),
   ("CXXConstructExpr", .construct),
   ("CXXTemporaryObjectExpr", .construct),
   ("LambdaExpr", .lambda),
   ("MemberExpr", .memberReference),
   ("DeclRefExpr", .declarationReference),
   ("StringLiteral", .stringLiteral),
   ("IntegerLiteral", .integerLiteral),
   ("CharacterLiteral", .integerLiteral),
   ("FloatingLiteral", .floatingLiteral),
   ("CXXBoolLiteralExpr", .boolLiteral),
   ("CXXNullPtrLiteralExpr", .nullPointerLiteral),
   ("InitListExpr", .initializerList),
   ("BinaryOperator", .binaryOperator),
   ("CompoundAssignOperator", .binaryOperator),
   ("UnaryOperator", .unaryOperator),
   ("ImplicitCastExpr", .implicitCast),
   ("ParenExpr", .parenthesized),
   ("ExprWithCleanups", .unexposed),
   ("MaterializeTemporaryExpr", .unexposed),
   ("CXXBindTemporaryExpr", .unexposed),
   ("ConstantExpr", .unexposed),
   ("CXXFunctionalCastExpr", .unexposed),
   ("CStyleCastExpr", .unexposed),
   ("CXXStaticCastExpr", .unexposed),
   ("CXXStdInitializerListExpr", .unexposed),
   ("SubstNonTypeTemplateParmExpr", .unexposed),
   ("CXXDefaultArgExpr", .defaultArgument),
   ("CompoundStmt", .compoundStatement),
   ("ReturnStmt", .returnStatement),
   ("DeclStmt", .declarationStatement)]

/-- The kind of a node: records are told apart by their tag. -/
def nodeKind
    (entry : DumpEntry) :
    NodeKind :=
  if recordKinds.contains entry.kind then
    if entry.tag == some "class" then .classDeclaration else .structDeclaration
  else (kindWords.lookup entry.kind).getD .other

end DumpEntry

end BindingStubs
