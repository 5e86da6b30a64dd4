import BindingStubs.Glob.Basic

namespace BindingStubs

/-!
# Reading globs

A glob is read character by character.  Braces open alternatives, which may nest; brackets
enclose a set of characters; a backslash takes the next character literally.
-/

namespace GlobReader

/-- An open brace: the branches that are finished, and the tokens before the brace. -/
structure OpenAlternatives where
  branches : List (List GlobToken)
  before : List GlobToken
  deriving Repr, Inhabited

/-- What has been read: the tokens of the current branch in reverse, the open braces from
the innermost, and the character read last. -/
structure State where
  current : List GlobToken := []
  braces : List OpenAlternatives := []
  previous : Option Char := none
  deriving Repr, Inhabited

/-- Add a token to the current branch. -/
def State.push
    (state : State)
    (token : GlobToken) :
    State :=
  { state with current := token :: state.current }

/-- The state after reading a character. -/
def State.after
    (state : State)
    (character : Char) :
    State :=
  { state with previous := some character }

/-- A set of characters that is being read: its ranges in reverse, and whether a dash
waits for the end of a range. -/
structure SetState where
  ranges : List (Char × Char) := []
  inRange : Bool := false
  isFirst : Bool := true
  deriving Repr, Inhabited

/-- End the open range with a character; a range must not go backwards. -/
def SetState.close?
    (state : SetState)
    (last : Char) :
    Option SetState :=
  match state.ranges with
  | range :: rest =>
      if last < range.1 then none
      else some { ranges := (range.1, last) :: rest, inRange := false, isFirst := false }
  | [] => none

/-- Read the characters of a set up to its closing bracket. -/
def readSet?
    (state : SetState) :
    List Char → Option (List (Char × Char) × List Char)
  | [] => none
  | character :: rest =>
      if character = ']' && !state.isFirst then
        let ranges := if state.inRange then ('-', '-') :: state.ranges else state.ranges
        some (ranges.reverse, rest)
      else if state.inRange then
        match state.close? character with
        | some closed => readSet? closed rest
        | none => none
      else if character = '-' && !state.isFirst then
        readSet? { state with inRange := true } rest
      else
        readSet?
          { ranges := (character, character) :: state.ranges, inRange := false, isFirst := false }
          rest

theorem length_readSet?_le
    {state : SetState}
    {text rest : List Char}
    {ranges : List (Char × Char)}
    (found : readSet? state text = some (ranges, rest)) :
    rest.length ≤ text.length := by
  induction text generalizing state with
  | nil => simp [readSet?] at found
  | cons character text inductionHypothesis =>
      unfold readSet? at found
      split at found
      · simp only [Option.some.injEq, Prod.mk.injEq] at found
        rw [← found.2]
        simp
      · split at found
        · split at found
          · exact Nat.le_succ_of_le (inductionHypothesis found)
          · simp at found
        · split at found
          · exact Nat.le_succ_of_le (inductionHypothesis found)
          · exact Nat.le_succ_of_le (inductionHypothesis found)

/-- Close the innermost brace. -/
def closeAlternatives?
    (state : State) :
    Option State :=
  match state.braces with
  | [] => none
  | innermost :: rest =>
      some
        { state with
          current :=
            .alternatives (innermost.branches ++ [state.current.reverse]) :: innermost.before
          braces := rest }

/-- Start the next branch of the innermost brace; outside of braces a comma is literal. -/
def nextBranch
    (state : State) :
    State :=
  match state.braces with
  | [] => state.push (.literal ',')
  | innermost :: rest =>
      { state with
        current := []
        braces :=
          { innermost with branches := innermost.branches ++ [state.current.reverse] } :: rest }

/-- Replace the separator before a double star by a token that spans directories. -/
def spanDirectories
    (state : State)
    (isLast : Bool) :
    State :=
  let token : GlobToken :=
    match state.current with
    | .leadingDirectories :: _ => .leadingDirectories
    | .trailingDirectories :: _ => .trailingDirectories
    | _ => if isLast then .trailingDirectories else .innerDirectories
  { state with current := token :: state.current.drop 1 }

/-- Two stars without a special meaning. -/
def plainStars
    (state : State) :
    State :=
  (state.push .anything).push .anything

/-- What a double star means, given the character before it and what follows: the new
state, and whether the separator that follows belongs to it. -/
def doubleStar
    (before : Option Char)
    (state : State)
    (following : List Char) :
    State × Bool :=
  let next := following.head?
  let isInside := !state.braces.isEmpty
  if state.current.isEmpty then
    match next with
    | none => (state.push .leadingDirectories, false)
    | some '/' => (state.push .leadingDirectories, true)
    | some _ => (plainStars state, false)
  else if before != some '/' && !(isInside && (before == some ',' || before == some '\x7b')) then
    (plainStars state, false)
  else
    match next with
    | none => (spanDirectories state true, false)
    | some '/' => (spanDirectories state false, true)
    | some character =>
        if isInside && (character == ',' || character == '\x7d') then
          (spanDirectories state true, false)
        else (plainStars state, false)

/-- Read tokens to the end of the text. -/
def readTokens?
    (state : State)
    (text : List Char) :
    Option State :=
  match text with
  | [] => some state
  | '?' :: rest => readTokens? ((state.push .any).after '?') rest
  | '*' :: '*' :: rest =>
      let read := doubleStar state.previous state rest
      if read.2 then readTokens? (read.1.after '/') (rest.drop 1)
      else readTokens? (read.1.after '*') rest
  | '*' :: rest => readTokens? ((state.push .anything).after '*') rest
  | '[' :: rest =>
      let isNegated := rest.head? == some '!' || rest.head? == some '^'
      match found : readSet? {} (if isNegated then rest.drop 1 else rest) with
      | some (ranges, behind) =>
          have : behind.length < rest.length + 1 := by
            have shorter := length_readSet?_le found
            split at shorter
            · simp at shorter; omega
            · omega
          readTokens? ((state.push (.oneOf isNegated ranges)).after ']') behind
      | none => none
  | '\x7b' :: rest =>
      readTokens?
        ({ state with
            current := []
            braces := { branches := [], before := state.current } :: state.braces }.after '\x7b')
        rest
  | '\x7d' :: rest =>
      match closeAlternatives? state with
      | some closed => readTokens? (closed.after '\x7d') rest
      | none => none
  | ',' :: rest => readTokens? ((nextBranch state).after ',') rest
  | '\\' :: [] => none
  | '\\' :: character :: rest =>
      readTokens? ((state.push (.literal character)).after character) rest
  | character :: rest => readTokens? ((state.push (.literal character)).after character) rest
termination_by text.length
decreasing_by all_goals simp; try omega

end GlobReader

/-- Read a glob; braces and brackets must be closed, and a backslash must not end it. -/
def Glob.read?
    (text : String) :
    Option Glob :=
  match GlobReader.readTokens? {} text.toList with
  | some state => if state.braces.isEmpty then some ⟨state.current.reverse⟩ else none
  | none => none

end BindingStubs
