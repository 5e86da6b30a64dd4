import BindingStubs.Text.Basic

namespace BindingStubs

/-!
# C++ types

A C++ type is a name, possibly applied to template arguments.  Pointer levels are kept
as trailing stars on the name, so that a pointer is never equal to what it points to.
References and qualifiers are absent: they do not change the interface that is rendered.
-/

/-- A C++ type as the registrations see it. -/
inductive CppType where
  /-- A type without an argument list. -/
  | plain (name : String)
  /-- A template applied to arguments; the list may be empty. -/
  | applied (name : String) (arguments : List CppType)
  deriving Repr, Inhabited

namespace CppType

/-- The mark of one pointer level. -/
def pointerMark : Char := '*'

/-- The name with its pointer marks. -/
def name : CppType → String
  | .plain name => name
  | .applied name _ => name

/-- The argument list, when there is one. -/
def arguments? : CppType → Option (List CppType)
  | .plain _ => none
  | .applied _ arguments => some arguments

/-- The type with a given name and an optional argument list. -/
def ofParts
    (name : String) :
    Option (List CppType) → CppType
  | none => .plain name
  | some arguments => .applied name arguments

/-- The same type under another name. -/
def withName
    (name : String) :
    CppType → CppType
  | .plain _ => .plain name
  | .applied _ arguments => .applied name arguments

mutual

/-- Decide whether two types are equal. -/
def decideEq : (first second : CppType) → Decidable (first = second)
  | .plain first, .plain second =>
      if same : first = second then
        isTrue (by rw [same])
      else
        isFalse (by intro equal; injection equal; contradiction)
  | .plain _, .applied _ _ => isFalse (by intro equal; injection equal)
  | .applied _ _, .plain _ => isFalse (by intro equal; injection equal)
  | .applied first firstArguments, .applied second secondArguments =>
      if same : first = second then
        match decideEqList firstArguments secondArguments with
        | isTrue sameArguments => isTrue (by rw [same, sameArguments])
        | isFalse differ => isFalse (by intro equal; injection equal; contradiction)
      else
        isFalse (by intro equal; injection equal; contradiction)

/-- Decide whether two argument lists are equal. -/
def decideEqList : (first second : List CppType) → Decidable (first = second)
  | [], [] => isTrue rfl
  | [], _ :: _ => isFalse (by intro equal; injection equal)
  | _ :: _, [] => isFalse (by intro equal; injection equal)
  | first :: firstRest, second :: secondRest =>
      match decideEq first second with
      | isTrue same =>
          match decideEqList firstRest secondRest with
          | isTrue sameRest => isTrue (by rw [same, sameRest])
          | isFalse differ => isFalse (by intro equal; injection equal; contradiction)
      | isFalse differ => isFalse (by intro equal; injection equal; contradiction)

end

instance : DecidableEq CppType := decideEq

/-- Whether a character marks a pointer level. -/
def isPointerMark
    (character : Char) :
    Bool :=
  character == pointerMark

/-- The number of pointer levels. -/
def pointerDepth
    (type : CppType) :
    Nat :=
  (type.name.toList.reverse.takeWhile isPointerMark).length

/-- Whether there is at least one pointer level. -/
def isPointer
    (type : CppType) :
    Bool :=
  0 < type.pointerDepth

/-- The name without pointer marks. -/
def baseName
    (type : CppType) :
    String :=
  Text.onCharacters (Text.dropTrailing isPointerMark) type.name

/-- The type with one pointer level removed. -/
def pointee?
    (type : CppType) :
    Option CppType :=
  (([pointerMark] : List Char).isSuffixOf? type.name.toList).map fun rest =>
    type.withName (String.ofList rest)

/-- The type with every pointer level removed. -/
def withoutPointers
    (type : CppType) :
    CppType :=
  type.withName type.baseName

/-- The type of pointers to this type. -/
def pointerTo
    (type : CppType) :
    CppType :=
  type.withName (type.name.push pointerMark)

/-- The type under a number of additional pointer levels. -/
def addPointers
    (type : CppType) :
    Nat → CppType
  | 0 => type
  | levels + 1 => (type.addPointers levels).pointerTo

/-- The type with a number of pointer levels removed, when it has that many. -/
def removePointers?
    (type : CppType) :
    Nat → Option CppType
  | 0 => some type
  | levels + 1 => (type.removePointers? levels).bind pointee?

/-- One template argument. -/
def argument?
    (type : CppType)
    (index : Nat) :
    Option CppType :=
  type.arguments?.bind fun arguments => arguments[index]?

/-- The number of template arguments, none without an argument list. -/
def argumentCount
    (type : CppType) :
    Nat :=
  (type.arguments?.getD []).length

mutual

/-- The base names of the type and of its arguments, outermost first. -/
def baseNames : CppType → List String
  | .plain name => [(CppType.plain name).baseName]
  | .applied name arguments =>
      (CppType.applied name arguments).baseName :: baseNamesOfList arguments

/-- The base names occurring in an argument list. -/
def baseNamesOfList : List CppType → List String
  | [] => []
  | type :: rest => baseNames type ++ baseNamesOfList rest

end

end CppType

end BindingStubs
