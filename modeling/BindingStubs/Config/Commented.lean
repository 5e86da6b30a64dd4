import BindingStubs.Config.Basic
import BindingStubs.Yaml.Writer

namespace BindingStubs

/-!
# Configuration files with notes

A configuration is written as YAML.  A heading opens the file, and a note stands above each
setting that starts a group.
-/

/-- A setting as a YAML value. -/
def Setting.yaml : Setting → Yaml
  | .texts items => .sequence (items.map fun item => .scalar item false)
  | .text (some value) => .scalar value false
  | .count (some value) => .scalar (Text.ofNat value) true
  | .flag (some value) => .scalar (if value then "true" else "false") true
  | .text none => .scalar "null" true
  | .count none => .scalar "null" true
  | .flag none => .scalar "null" true

namespace Config

/-- The lines that open a configuration file. -/
def heading : String :=
  "# stubsmith configuration\n"
    ++ "#\n"
    ++ "# Relative paths are resolved against the directory of this file.\n"
    ++ "# Command-line lists extend the ones below; single values replace them.\n"

/-- The notes above the settings that start a group. -/
def notes : List (String × String) :=
  [("inputs", "Translation units with pyembed registrations, or directories of them"),
   ("include_dirs", "Compiler flags passed to the clang driver"),
   ("output_dir", "Where .pyi files go; null prints every stub to stdout"),
   ("package_prefix", "Prepended to every fully-qualified module name"),
   ("imports", "Artifacts exported by earlier runs"),
   ("jobs", "Worker count; 0 uses every core"),
   ("prefix", "Precompiled prefix; first_is_prefix builds it from the first input"),
   ("clang", "clang driver and language standard"),
   ("cache_dir", "Fragment cache; null uses the per-user cache directory"),
   ("post_format", "Run on every written stub, e.g. \"ruff format\""),
   ("exclude", "Globs skipped while walking input directories")]

/-- The note above a setting, with an empty line before it. -/
def noteAbove
    (name : String) :
    String :=
  match notes.lookup name with
  | some note => "\n# " ++ note ++ "\n"
  | none => ""

/-- The configuration as a file with notes. -/
def commentedText
    (config : Config) :
    String :=
  heading
    ++ String.join (config.settings.map fun setting =>
      noteAbove setting.1 ++ Yaml.entryText setting.1 setting.2.yaml)

end Config

end BindingStubs
