import BindingStubs.CppType.Substitution

namespace BindingStubs

/-!
# Matching types against patterns

A pattern is a type in which some names are parameters.  A parameter matches any type; one
under pointer levels matches what is left of a type after removing as many levels.  A
parameter seen twice must match the same type both times.
-/

namespace Matching

/-- Bind a parameter, or check that it is bound to the same type. -/
def bindParameter
    (name : String)
    (type : CppType)
    (bindings : Bindings) :
    Bool × Bindings :=
  match bindings.get? name with
  | some existing => (existing == type, bindings)
  | none => (true, bindings.insert name type)

mutual

/-- Match a type against a pattern.  Returns whether it matches and the bindings found,
which after a failure are those found so far. -/
def unify
    (parameters : List String) :
    (pattern concrete : CppType) → Bindings → Bool × Bindings
  | .plain name, concrete, bindings =>
      if parameters.contains (CppType.plain name).baseName then
        match concrete.removePointers? (CppType.plain name).pointerDepth with
        | some bound => bindParameter (CppType.plain name).baseName bound bindings
        | none => (false, bindings)
      else (CppType.plain name == concrete, bindings)
  | .applied name patterns, .applied other arguments, bindings =>
      if name = other ∧ patterns.length = arguments.length then
        unifyAll parameters patterns arguments bindings
      else (false, bindings)
  | .applied _ _, .plain _, bindings => (false, bindings)

/-- Match types against patterns from left to right, up to the first failure. -/
def unifyAll
    (parameters : List String) :
    (patterns concretes : List CppType) → Bindings → Bool × Bindings
  | pattern :: patterns, concrete :: concretes, bindings =>
      match unify parameters pattern concrete bindings with
      | (true, extended) => unifyAll parameters patterns concretes extended
      | (false, extended) => (false, extended)
  | _, _, bindings => (true, bindings)

end

/-- The bindings under which a pattern is a type. -/
def match?
    (parameters : List String)
    (pattern concrete : CppType) :
    Option Bindings :=
  match unify parameters pattern concrete {} with
  | (true, bindings) => some bindings
  | (false, _) => none

end Matching

end BindingStubs
