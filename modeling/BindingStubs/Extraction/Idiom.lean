import BindingStubs.CppType.Basic

namespace BindingStubs

/-!
# Registration idioms

Registrations are calls of functions with fixed names that return a handle of the embedding
layer.  A function of the same name that returns anything else is unrelated.
-/

/-- A recognized registration call. -/
inductive Idiom where
  | declareModule
  | declareClass
  | declareEnum
  | addFunction
  | addClass
  | addEnum
  | addConstructor
  | addMethod
  | addStaticMethod
  | addProperty
  | addStaticConstant
  | addInnerClass
  | addInnerEnum
  | addImplicitConverter
  deriving Repr, DecidableEq

namespace Idiom

/-- The handle type of a module. -/
def moduleHandle : String := "pyembed::ModuleDef"

/-- The handle type of a class. -/
def classHandle : String := "pyembed::ClassDef"

/-- The handle type of an enum. -/
def enumHandle : String := "pyembed::EnumDef"

/-- The base class of type exporters. -/
def exporterBase : String := "pyembed::TypeExporter"

/-- The namespace of the embedding layer itself, where calls are not registrations. -/
def embeddingNamespace : String := "pyembed"

/-- All idioms. -/
def all : List Idiom :=
  [.declareModule, .declareClass, .declareEnum, .addFunction, .addClass, .addEnum,
   .addConstructor, .addMethod, .addStaticMethod, .addProperty, .addStaticConstant,
   .addInnerClass, .addInnerEnum, .addImplicitConverter]

/-- The function name of an idiom. -/
def name : Idiom → String
  | .declareModule => "declare_module"
  | .declareClass => "declare_class"
  | .declareEnum => "declare_enum"
  | .addFunction => "add_function"
  | .addClass => "add_class"
  | .addEnum => "add_enum"
  | .addConstructor => "add_constructor"
  | .addMethod => "add_method"
  | .addStaticMethod => "add_static_method"
  | .addProperty => "add_property"
  | .addStaticConstant => "add_static_constant"
  | .addInnerClass => "add_inner_class"
  | .addInnerEnum => "add_inner_enum"
  | .addImplicitConverter => "add_implicit_converter"

/-- The idiom with a function name. -/
def ofSpelling?
    (spelling : String) :
    Option Idiom :=
  all.find? fun idiom => idiom.name == spelling

/-- A name without leading scope operators of the global namespace. -/
def dropGlobalScope : List Char → List Char
  | ':' :: ':' :: rest => dropGlobalScope rest
  | text => text

/-- Whether a type has a name, up to a leading scope operator. -/
def isNamed
    (type : CppType)
    (name : String) :
    Bool :=
  dropGlobalScope type.name.toList == name.toList

/-- Whether a call with this result type is the idiom. -/
def accepts
    (idiom : Idiom)
    (result : CppType) :
    Bool :=
  match idiom with
  | .declareModule | .addFunction | .addClass | .addEnum => isNamed result moduleHandle
  | .declareEnum => isNamed result enumHandle
  | .addStaticConstant => isNamed result moduleHandle || isNamed result classHandle
  | .declareClass | .addConstructor | .addMethod | .addStaticMethod | .addProperty
  | .addInnerClass | .addInnerEnum | .addImplicitConverter => isNamed result classHandle

/-- Binary operators with their reflected counterparts. -/
def reflectedOperators : List (String × String) :=
  [("__add__", "__radd__"), ("__sub__", "__rsub__"), ("__mul__", "__rmul__"),
   ("__matmul__", "__rmatmul__"), ("__truediv__", "__rtruediv__"),
   ("__floordiv__", "__rfloordiv__"), ("__mod__", "__rmod__"), ("__divmod__", "__rdivmod__"),
   ("__pow__", "__rpow__"), ("__lshift__", "__rlshift__"), ("__rshift__", "__rrshift__"),
   ("__and__", "__rand__"), ("__xor__", "__rxor__"), ("__or__", "__ror__")]

/-- The reflected counterpart of a binary operator. -/
def reflected?
    (name : String) :
    Option String :=
  reflectedOperators.lookup name

end Idiom

end BindingStubs
