import BindingStubs.Text.Basic

namespace BindingStubs

/-!
# Lines of a stub

A stub is a list of lines, each with a depth of indentation and a role.  The roles say
which line opens a block, which one decorates the next and which imports the stub needs.
-/

/-- What a line of a stub is for. -/
inductive LineRole where
  /-- Separates two parts of a module. -/
  | separator
  /-- Opens the body of a class. -/
  | classHeader
  /-- Opens the body of an enum. -/
  | enumHeader
  /-- Opens the body of a documented callable. -/
  | callableHeader
  /-- A callable without a body of its own. -/
  | callable
  /-- Marks the next callable as one of several overloads. -/
  | overloadMark
  /-- Any other mark on the next callable. -/
  | mark
  /-- Declares a constant. -/
  | constant
  /-- Part of a docstring, an enumerator or a body without members. -/
  | body
  deriving Repr, DecidableEq

/-- One line of a stub. -/
structure StubLine where
  role : LineRole
  depth : Nat
  text : String
  deriving Repr, DecidableEq

namespace StubLine

/-- The spaces of one level of indentation. -/
def indentation : String := "    "

/-- The line as it is written; an empty line is not indented. -/
def render
    (line : StubLine) :
    String :=
  if line.text.isEmpty then ""
  else String.join (List.replicate line.depth indentation) ++ line.text

end StubLine

/-- The lines of a docstring: one line in triple quotes, or the trimmed lines between two
lines of quotes. Backslashes and triple quotes inside are escaped. -/
def docstringLines
    (doc : String) :
    List String :=
  let quotes : List Char := ['"', '"', '"']
  let escapedQuotes : List Char := ['\\', '"', '\\', '"', '\\', '"']
  let escaped :=
    Text.replaceAll quotes escapedQuotes
      (Text.replaceAll ['\\'] ['\\', '\\'] (Text.trim doc.toList))
  let lines := Text.lines escaped
  if lines.length ≤ 1 then [String.ofList (quotes ++ escaped ++ quotes)]
  else
    String.ofList quotes :: lines.map (fun line => String.ofList (Text.trimEnd line))
      ++ [String.ofList quotes]

end BindingStubs
