import BindingStubs.Text.Basic

namespace BindingStubs

/-!
# Compiler options

The options decide which compiler is run and with which flags.  Their fingerprint is what
distinguishes one way of compiling a source from another.
-/

/-- The compiler and the flags handed to each of its runs. -/
structure CompilerOptions where
  executable : String := "clang++"
  standard : Option String := none
  includeDirectories : List String := []
  defines : List String := []
  extraArguments : List String := []
  deriving Repr, DecidableEq, Inhabited

namespace CompilerOptions

/-- The flags of every run: standard, include directories, defines and what is given freely. -/
def flags
    (options : CompilerOptions) :
    List String :=
  options.standard.toList.map ("-std=" ++ ·)
    ++ options.includeDirectories.map ("-I" ++ ·)
    ++ options.defines.map ("-D" ++ ·)
    ++ options.extraArguments

/-- The compiler and its flags as one text, separated by a control character. -/
def fingerprint
    (options : CompilerOptions) :
    String :=
  String.intercalate "\x1f" (options.executable :: options.flags)

end CompilerOptions

end BindingStubs
