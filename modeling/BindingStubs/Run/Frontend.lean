import BindingStubs.Tree.Unit
import BindingStubs.World

namespace BindingStubs

/-!
# Front ends

A front end parses sources into trees and builds precompiled headers.  The real one asks a
compiler; any other that answers the same requests serves a run as well.
-/

/-- A parsed translation unit and the files that it depended on. -/
structure ParsedUnit where
  unit : TranslationUnit
  dependencies : List String

/-- What a run asks of a compiler. -/
structure Frontend where
  /-- What distinguishes this way of parsing from others. -/
  fingerprint : String
  /-- Parse a source, perhaps on top of a precompiled header. -/
  parse : (source : String) → (precompiled : Option String) → Acting ParsedUnit
  /-- Build a precompiled header and tell the files that it depends on. -/
  precompile : (source output : String) → Acting (List String)

end BindingStubs
