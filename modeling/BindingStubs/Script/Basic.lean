namespace BindingStubs

/-!
# Shell scripts

A compiler or a formatter may be a shell script.  This is the part of the shell language
that such scripts are written in: commands with redirections, variables, loops over words,
choices by pattern and conditions.
-/

/-- A part of a word: text, or the value of a parameter. -/
inductive WordPart where
  | text (characters : String) (isQuoted : Bool)
  | parameter (name : String) (isQuoted : Bool)
  deriving Repr, DecidableEq

/-- A word is put together from parts. -/
abbrev ScriptWord := List WordPart

/-- Where a redirection leads. -/
inductive RedirectionTarget where
  | file (path : ScriptWord) (appends : Bool)
  | descriptor (number : Nat)
  deriving Repr, DecidableEq

/-- A redirection of one of the descriptors of a command. -/
structure Redirection where
  descriptor : Nat
  target : RedirectionTarget
  deriving Repr, DecidableEq

/-- A shell script. -/
inductive Script where
  | skip
  | simple
      (assignments : List (String × ScriptWord))
      (words : List ScriptWord)
      (redirections : List Redirection)
  | sequence (first second : Script)
  | both (first second : Script)
  | either (first second : Script)
  | negation (body : Script)
  | forEach (name : String) (values : Option (List ScriptWord)) (body : Script)
  | matching (subject : ScriptWord) (patterns : List ScriptWord) (body otherwise : Script)
  | conditional (condition body otherwise : Script)
  | redirected (body : Script) (redirections : List Redirection)
  deriving Repr

end BindingStubs
