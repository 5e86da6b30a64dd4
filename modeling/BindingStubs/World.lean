import BindingStubs.FileTree

namespace BindingStubs

/-!
# The world of a run

A run reads and writes files, and it asks a front end to parse sources.  The world holds the
files, a clock that moves on with every write, and the requests made so far.  An action that
fails keeps what it has changed before.
-/

/-- A request to the front end. -/
inductive Request where
  | parse (source : String) (precompiled : Option String)
  | precompile (source output : String)
  deriving Repr, DecidableEq

/-- What a run acts on. -/
structure World where
  files : FileTree := {}
  clock : Nat := 0
  requests : List Request := []
  deriving Repr, DecidableEq, Inhabited

/-- An action on the world that may fail. -/
abbrev Acting := EStateM Failure World

namespace World

/-- The world a moment later. -/
def later
    (world : World) :
    World :=
  { world with clock := world.clock + 1 }

/-- Change the files at the time of the clock. -/
def change
    (world : World)
    (step : FileTree → (now : Nat) → Except OsError FileTree) :
    Except OsError World :=
  match step world.files world.clock with
  | .ok files => .ok { world.later with files := files }
  | .error error => .error error

/-- Write a file. -/
def write
    (world : World)
    (path content : String) :
    Except OsError World :=
  world.change fun files now => files.write path content now

end World

namespace Acting

/-- Add a note to the failure of an action. -/
def noting
    {Value : Type}
    (note : String)
    (action : Acting Value) :
    Acting Value :=
  fun world =>
    match action world with
    | .ok value after => .ok value after
    | .error failure after => .error (failure.withNote note) after

/-- The value of a computation, or its failure. -/
def ofExcept
    {Value : Type} :
    Except Failure Value → Acting Value
  | .ok value => pure value
  | .error failure => throw failure

/-- Change the files at the time of the clock. -/
def change
    (step : FileTree → (now : Nat) → Except OsError FileTree) :
    Acting Unit :=
  fun world =>
    match world.change step with
    | .ok after => .ok () after
    | .error error => .error (Failure.ofOs error) world

/-- Write a file. -/
def write
    (path content : String) :
    Acting Unit :=
  change fun files now => files.write path content now

/-- Read a file. -/
def read
    (path : String) :
    Acting String := do
  match (← get).files.read path with
  | .ok content => return content
  | .error error => throw (Failure.ofOs error)

/-- Create the directory that a path is in. -/
def makeParent
    (path : String) :
    Acting Unit :=
  match FilePath.parent? path with
  | some parent =>
      noting ("creating " ++ parent) (change fun files now => files.makeDirectories parent now)
  | none => return

/-- Record a request to the front end. -/
def request
    (made : Request) :
    Acting Unit :=
  modify fun world => { world with requests := world.requests ++ [made] }

end Acting

end BindingStubs
