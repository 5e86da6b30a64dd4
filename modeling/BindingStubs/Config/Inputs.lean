import BindingStubs.Config.Basic
import BindingStubs.FileTree
import BindingStubs.Glob.Reader
import BindingStubs.Text.Quoted

namespace BindingStubs

/-!
# Inputs of a configuration

Directories among the inputs stand for the sources below them.  Hidden directories and
sources that match an exclusion are passed over; files given directly are kept.
-/

namespace Config

/-- The exclusions of a configuration, if all of them can be read. -/
def exclusions?
    (config : Config) :
    Option (List Glob) :=
  config.exclude.mapM Glob.read?

/-- Whether a path matches an exclusion. -/
def isExcluded
    (exclusions : List Glob)
    (path : String) :
    Bool :=
  exclusions.any fun glob => glob.accepts path

/-- The extensions of sources. -/
def sourceExtensions : List String := ["cpp", "cc", "cxx", "c++"]

/-- Whether a path has the extension of a source. -/
def isSource
    (path : String) :
    Bool :=
  match FilePath.extension? path with
  | some extension => sourceExtensions.contains extension
  | none => false

/-- Whether the names that lead to a file pass through a hidden directory. -/
def isHidden
    (names : List String) :
    Bool :=
  names.dropLast.any fun name => name.toList.head? == some '.'

/-- The sources below a directory in the order of their paths. -/
def sourcesBelow
    (files : FileTree)
    (exclusions : List Glob)
    (directory : String) :
    List String :=
  match files.locate directory with
  | .error _ => []
  | .ok place =>
      FilePath.sort
        ((files.filesBelow place).filterMap fun file =>
          let relative := String.intercalate "/" file.1
          let path := FilePath.join directory relative
          if isHidden file.1 || !isSource path || isExcluded exclusions relative
              || isExcluded exclusions path then none
          else some path)

/-- The inputs with directories replaced by the sources below them. -/
def collectInputs?
    (config : Config)
    (files : FileTree) :
    Option (List String) :=
  config.exclusions?.map fun exclusions =>
    config.inputs.flatMap fun input =>
      if files.isDirectory input then sourcesBelow files exclusions input else [input]

/-- Why a configuration cannot be used. -/
inductive Problem where
  | malformedExclusion (pattern : String)
  | missingPrecompiled
  | invalidPackage (package : String)
  | emptyPostFormat
  deriving Repr, DecidableEq

/-- The sentence shown for a problem. -/
def Problem.message : Problem → String
  | .malformedExclusion pattern => "invalid exclude pattern " ++ Text.quoted pattern
  | .missingPrecompiled => "first_is_prefix requires a prefix path"
  | .invalidPackage package => "invalid package prefix " ++ Text.quoted package
  | .emptyPostFormat => "post_format is set but empty"

/-- Whether a package name has an empty part. -/
def hasEmptyPart
    (package : String) :
    Bool :=
  (package.toList.splitOn '.').any List.isEmpty

/-- The first problem of a configuration. -/
def problem?
    (config : Config) :
    Option Problem :=
  match config.exclude.find? fun pattern => (Glob.read? pattern).isNone with
  | some pattern => some (.malformedExclusion pattern)
  | none =>
      if config.firstIsPrecompiled.getD false && config.precompiled.isNone then
        some .missingPrecompiled
      else
        match config.package.filter hasEmptyPart with
        | some package => some (.invalidPackage package)
        | none =>
            if config.postFormat.any fun command => Text.isBlank command.toList then
              some .emptyPostFormat
            else none

end Config

end BindingStubs
