import BindingStubs.CppType.FunctionType

namespace BindingStubs

/-!
# Built-in types

Fundamental types and the types of the C++ standard library have a rendering of their own,
which applies when no registration and no rule does.
-/

namespace Builtin

/-- Exact spellings of types without arguments, with their renderings. -/
def scalars : List (String × String) :=
  [("bool", "bool"), ("char", "str"), ("signed char", "int"), ("unsigned char", "int"),
   ("short", "int"), ("unsigned short", "int"), ("int", "int"), ("unsigned int", "int"),
   ("long", "int"), ("unsigned long", "int"), ("long long", "int"),
   ("unsigned long long", "int"), ("__int128", "int"), ("unsigned __int128", "int"),
   ("size_t", "int"), ("std::size_t", "int"), ("ssize_t", "int"), ("ptrdiff_t", "int"),
   ("std::ptrdiff_t", "int"), ("int8_t", "int"), ("int16_t", "int"), ("int32_t", "int"),
   ("int64_t", "int"), ("uint8_t", "int"), ("uint16_t", "int"), ("uint32_t", "int"),
   ("uint64_t", "int"), ("std::int8_t", "int"), ("std::int16_t", "int"),
   ("std::int32_t", "int"), ("std::int64_t", "int"), ("std::uint8_t", "int"),
   ("std::uint16_t", "int"), ("std::uint32_t", "int"), ("std::uint64_t", "int"),
   ("float", "float"), ("double", "float"), ("long double", "float"), ("void", "None"),
   ("std::nullptr_t", "None"), ("char*", "str"), ("wchar_t*", "str"), ("char8_t*", "str"),
   ("PyObject*", "object"), ("pyembed::Object", "object")]

/-- How a standard template is rendered. -/
inductive Shape where
  | text
  | sequence
  | set
  | mapping
  | optional
  | tuple
  | function
  | pointee
  | complex
  | union
  deriving Repr, DecidableEq

/-- Names of standard templates below the namespace, with their shapes. -/
def templates : List (Shape × List String) :=
  [(.text,
    ["basic_string", "basic_string_view", "string", "string_view", "wstring", "u8string"]),
   (.sequence, ["vector", "list", "deque", "array", "span", "forward_list", "valarray"]),
   (.set, ["set", "unordered_set", "multiset", "unordered_multiset"]),
   (.mapping, ["map", "unordered_map", "multimap", "unordered_multimap"]),
   (.optional, ["optional"]),
   (.tuple, ["pair", "tuple"]),
   (.function, ["function"]),
   (.pointee, ["shared_ptr", "unique_ptr", "reference_wrapper"]),
   (.complex, ["complex"]),
   (.union, ["variant"])]

/-- Names of string types that are no templates. -/
def stringNames : List String := ["string", "string_view", "wstring", "u8string"]

/-- What follows an inline namespace, a word with two leading underscores. -/
def dropInlineNamespace?
    (text : List Char) :
    Option (List Char) := do
  let word ← "__".toList.isPrefixOf? text
  if (word.takeWhile Text.isWord).isEmpty then none
  else "::".toList.isPrefixOf? (word.dropWhile Text.isWord)

/-- The readings of a name below the standard namespace, without and with an inline
namespace dropped. -/
def standardNames
    (name : List Char) :
    List (List Char) :=
  match "std::".toList.isPrefixOf? name with
  | some rest => rest :: (dropInlineNamespace? rest).toList
  | none => []

/-- The shape of a standard template. -/
def shape?
    (name : String) :
    Option Shape :=
  let readings := (standardNames name.toList).map String.ofList
  (templates.find? fun entry => readings.any entry.2.contains).map Prod.fst

/-- Whether a name is one of the string types, also below the namespace of the newer
library interface. -/
def isStringName
    (name : List Char) :
    Bool :=
  let readings := standardNames name
  (readings ++ readings.filterMap "__cxx11::".toList.isPrefixOf?).any fun reading =>
    stringNames.contains (String.ofList reading)

/-- Whether a name is an array of characters such as `char[8]`. -/
def isCharacterArray
    (name : List Char) :
    Bool :=
  ["char", "wchar_t", "char8_t"].any fun element =>
    match element.toList.isPrefixOf? name with
    | none => false
    | some rest =>
        match rest.dropWhile Text.isWhite with
        | '[' :: size => size.dropWhile Text.isDecimalDigit == [']']
        | _ => false

/-- The rendering of a built-in type without arguments. -/
def scalar?
    (name : String) :
    Option String :=
  match scalars.lookup name with
  | some rendering => some rendering
  | none =>
      if isCharacterArray name.toList || isStringName name.toList then some "str" else none

/-- The declaration needed to name callables. -/
def callableImport : String := "from collections.abc import Callable"

end Builtin

end BindingStubs
