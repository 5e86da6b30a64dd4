import BindingStubs.Failure
import BindingStubs.Text.Decimal

namespace BindingStubs

/-!
# Reports

What a run prints at its end.  An error is reported from its cause to the outermost note;
a summary counts what was found and written.  Colours are used only on request.
-/

/-- The counts of a successful run. -/
structure RunSummary where
  files : Nat := 0
  cached : Nat := 0
  modules : Nat := 0
  classes : Nat := 0
  enums : Nat := 0
  rules : Nat := 0
  written : List String := []
  formatFailures : Nat := 0
  deriving Repr, DecidableEq

namespace Report

/-- A way to emphasize text on a terminal. -/
inductive Style where
  | boldRed
  | red
  | cyan
  | green
  | dimmed
  | yellow
  deriving Repr, DecidableEq

/-- The terminal code of a style. -/
def Style.code : Style → String
  | .boldRed => "1;31"
  | .red => "31"
  | .cyan => "36"
  | .green => "32"
  | .dimmed => "2"
  | .yellow => "33"

/-- A text in a style, if colours are in use. -/
def emphasize
    (colored : Bool)
    (style : Style)
    (text : String) :
    String :=
  if colored then "\x1b[" ++ style.code ++ "m" ++ text ++ "\x1b[0m" else text

/-- The ending of a plural. -/
def plural
    (count : Nat) :
    String :=
  if count = 1 then "" else "s"

/-- The lines for one failure. -/
def failureLines
    (colored : Bool)
    (failure : Failure) :
    String :=
  emphasize colored .boldRed "error:" ++ " " ++ failure.cause.message ++ "\n"
    ++ String.join (failure.notes.map fun note =>
      "  " ++ emphasize colored .cyan "note:" ++ " " ++ note ++ "\n")

/-- The report of a failed run. -/
def failures
    (colored : Bool)
    (errors : List Failure) :
    String :=
  let count := errors.length
  let perFile := errors.countP fun failure => failure.cause.isPerFile
  let scope :=
    if 0 < perFile then " (" ++ Text.ofNat perFile ++ " in individual files)" else ""
  String.join (errors.map (failureLines colored))
    ++ emphasize colored .red
      ("✗ " ++ Text.ofNat count ++ " error" ++ plural count ++ scope
        ++ "; output in this run is not trustworthy")
    ++ "\n"

/-- The one sentence for a failed run. -/
def headline : List Failure → String
  | [failure] => failure.outermost
  | errors => Text.ofNat errors.length ++ " errors"

/-- The report of a successful run. -/
def summary
    (colored : Bool)
    (run : RunSummary) :
    String :=
  let counted (count : Nat) (noun : String) : String :=
    Text.ofNat count ++ " " ++ noun ++ plural count
  let classes :=
    Text.ofNat run.classes ++ " class" ++ (if run.classes = 1 then "" else "es")
  let first :=
    emphasize colored .green "✓ " ++ counted run.files "file" ++ " ("
      ++ Text.ofNat run.cached ++ " cached)  " ++ counted run.modules "module" ++ ", "
      ++ classes ++ ", " ++ counted run.enums "enum" ++ ", "
      ++ counted run.rules "type rule" ++ "\n"
  let wrote :=
    if run.written.isEmpty then ""
    else
      "  " ++ emphasize colored .dimmed "wrote" ++ " "
        ++ counted run.written.length "stub file" ++ "\n"
  let warned :=
    if run.formatFailures = 0 then ""
    else
      "  " ++ emphasize colored .yellow "warning:" ++ " post-formatter failed on "
        ++ counted run.formatFailures "file" ++ "\n"
  first ++ wrote ++ warned

end Report

end BindingStubs
