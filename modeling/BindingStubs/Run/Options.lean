namespace BindingStubs

/-!
# Run options

Everything a run needs to know besides the compiler.
-/

/-- What a run reads and writes. -/
structure RunOptions where
  /-- Translation units, in the order in which their fragments are merged. -/
  inputs : List String := []
  /-- Where stubs go; without it they are printed. -/
  outputDirectory : Option String := none
  /-- The package that every module is put below. -/
  package : Option String := none
  /-- Artifacts of earlier runs to resolve against. -/
  imports : List String := []
  /-- Where the artifact of this run goes. -/
  artifact : Option String := none
  /-- The number of workers; zero leaves the choice to the machine. -/
  jobs : Nat := 0
  /-- Whether no stubs are written. -/
  parseOnly : Bool := false
  /-- The precompiled header that sources are parsed on top of. -/
  precompiled : Option String := none
  /-- Whether the precompiled header is built from the first input. -/
  firstIsPrecompiled : Bool := false
  /-- Where fragments are kept between runs. -/
  cacheDirectory : Option String := none
  /-- The command run on every written stub. -/
  postFormat : Option String := none
  deriving Repr, DecidableEq, Inhabited

end BindingStubs
