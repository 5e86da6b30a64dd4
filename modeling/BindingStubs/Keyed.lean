namespace BindingStubs

/-!
# Keyed lists

A keyed list maps strings to values and remembers the order in which its keys were first
inserted.  Inserting a present key replaces its value where it stands.
-/

/-- Values under string keys, in the order of first insertion. -/
structure Keyed (α : Type) where
  entries : List (String × α) := []
  deriving Repr, DecidableEq

namespace Keyed

variable {α : Type}

instance : Inhabited (Keyed α) := ⟨⟨[]⟩⟩

/-- The keyed list without entries. -/
def empty : Keyed α := ⟨[]⟩

/-- Whether there is no entry. -/
def isEmpty
    (keyed : Keyed α) :
    Bool :=
  keyed.entries.isEmpty

/-- The number of entries. -/
def size
    (keyed : Keyed α) :
    Nat :=
  keyed.entries.length

/-- The keys in order. -/
def keys
    (keyed : Keyed α) :
    List String :=
  keyed.entries.map Prod.fst

/-- The values in the order of their keys. -/
def values
    (keyed : Keyed α) :
    List α :=
  keyed.entries.map Prod.snd

/-- The value under a key. -/
def get?
    (keyed : Keyed α)
    (key : String) :
    Option α :=
  keyed.entries.lookup key

/-- Whether a key is present. -/
def contains
    (keyed : Keyed α)
    (key : String) :
    Bool :=
  (keyed.get? key).isSome

/-- Replace the value under the first occurrence of a key, or append an entry. -/
def insertEntry
    (key : String)
    (value : α) :
    List (String × α) → List (String × α)
  | [] => [(key, value)]
  | entry :: rest =>
      if key == entry.1 then (entry.1, value) :: rest
      else entry :: insertEntry key value rest

/-- Put a value under a key, keeping the position of a present key. -/
def insert
    (keyed : Keyed α)
    (key : String)
    (value : α) :
    Keyed α :=
  ⟨insertEntry key value keyed.entries⟩

/-- Change the value under a key, starting from `fresh` when the key is absent. -/
def alter
    (keyed : Keyed α)
    (key : String)
    (fresh : α)
    (change : α → α) :
    Keyed α :=
  keyed.insert key (change ((keyed.get? key).getD fresh))

/-- Insert the entries of a list from left to right, so that later values win. -/
def ofList
    (entries : List (String × α)) :
    Keyed α :=
  entries.foldl (fun keyed entry => keyed.insert entry.1 entry.2) empty

/-- Apply a function to every value. -/
def map
    {β : Type}
    (transform : α → β)
    (keyed : Keyed α) :
    Keyed β :=
  ⟨keyed.entries.map fun entry => (entry.1, transform entry.2)⟩

end Keyed

end BindingStubs
