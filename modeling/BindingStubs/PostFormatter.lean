import BindingStubs.Text.Basic
import BindingStubs.Text.Quoted

namespace BindingStubs

/-!
# Post-formatters

A command that is run on every written stub, with the path of the stub appended.
-/

/-- A program with leading arguments. -/
structure PostFormatter where
  program : String
  arguments : List String
  deriving Repr, DecidableEq

namespace PostFormatter

/-- Read a command line, whose words blanks separate; a blank one is no command. -/
def parse?
    (command : String) :
    Option PostFormatter :=
  match (Text.words command.toList).map String.ofList with
  | [] => none
  | program :: arguments => some { program, arguments }

/-- The command in a diagnostic. -/
def describe
    (formatter : PostFormatter) :
    String :=
  "PostFormatter \x7b program: " ++ Text.quoted formatter.program ++ ", args: ["
    ++ String.intercalate ", " (formatter.arguments.map Text.quoted) ++ "] \x7d"

end PostFormatter

end BindingStubs
