import BindingStubs.Text.Utf8

namespace BindingStubs

/-!
# Globs

A glob is a sequence of tokens that is matched against the bytes of a path.  Stars and
question marks also match separators; a double star between separators spans directories.
-/

/-- One part of a glob. -/
inductive GlobToken where
  | literal (character : Char)
  /-- Any single byte. -/
  | any
  /-- Any bytes. -/
  | anything
  /-- The start of the path or of one of its components. -/
  | leadingDirectories
  /-- A separator and anything behind it. -/
  | trailingDirectories
  /-- A separator, possibly with directories and a further separator behind it. -/
  | innerDirectories
  /-- One byte inside, or if negated outside, of the ranges. -/
  | oneOf (isNegated : Bool) (ranges : List (Char × Char))
  /-- Any of several globs. -/
  | alternatives (branches : List (List GlobToken))
  deriving Repr, Inhabited

namespace GlobToken

/-- The byte that separates path components. -/
def separator : UInt8 := 0x2F

/-- All ends of a list, itself first. -/
def suffixes : List UInt8 → List (List UInt8)
  | [] => [[]]
  | byte :: rest => (byte :: rest) :: suffixes rest

/-- What follows each separator. -/
def afterSeparators : List UInt8 → List (List UInt8)
  | [] => []
  | byte :: rest =>
      if byte = separator then rest :: afterSeparators rest else afterSeparators rest

/-- The bytes that one range of characters admits.  The bytes of its ends count one by one;
only the last byte of the first end and the first byte of the second span a range. -/
def rangeAdmits
    (range : Char × Char)
    (byte : UInt8) :
    Bool :=
  let first := Text.encodeUtf8 [range.1]
  let last := Text.encodeUtf8 [range.2]
  if range.1 = range.2 then first.contains byte
  else
    first.contains byte || last.contains byte
      || (match first.getLast?, last.head? with
          | some low, some high => decide (low ≤ byte ∧ byte ≤ high)
          | _, _ => false)

mutual

/-- Whether a token cannot consume or require anything, because all its branches are
empty. -/
def isVoid : GlobToken → Bool
  | .alternatives branches => areVoid branches
  | _ => false

/-- Whether every token of a glob is void. -/
def isVoidSequence : List GlobToken → Bool
  | [] => true
  | token :: rest => isVoid token && isVoidSequence rest

/-- Whether every branch is void. -/
def areVoid : List (List GlobToken) → Bool
  | [] => true
  | branch :: rest => isVoidSequence branch && areVoid rest

end

mutual

/-- Whether a token matches the start of some bytes so that the rest is accepted. -/
def matchToken
    (token : GlobToken)
    (accept : List UInt8 → Bool)
    (bytes : List UInt8) :
    Bool :=
  match token with
  | .literal character =>
      match (Text.encodeUtf8 [character]).isPrefixOf? bytes with
      | some rest => accept rest
      | none => false
  | .any =>
      match bytes with
      | _ :: rest => accept rest
      | [] => false
  | .anything => (suffixes bytes).any accept
  | .leadingDirectories => accept bytes || (afterSeparators bytes).any accept
  | .trailingDirectories =>
      match bytes with
      | byte :: rest => byte == separator && (suffixes rest).any accept
      | [] => false
  | .innerDirectories =>
      match bytes with
      | byte :: rest =>
          byte == separator && (accept rest || (afterSeparators rest).any accept)
      | [] => false
  | .oneOf isNegated ranges =>
      match bytes with
      | byte :: rest => (ranges.any (rangeAdmits · byte) != isNegated) && accept rest
      | [] => false
  | .alternatives branches =>
      if areVoid branches then accept bytes else matchBranches branches accept bytes

/-- Whether a glob matches the start of some bytes so that the rest is accepted. -/
def matchSequence
    (tokens : List GlobToken)
    (accept : List UInt8 → Bool)
    (bytes : List UInt8) :
    Bool :=
  match tokens with
  | [] => accept bytes
  | token :: rest => matchToken token (matchSequence rest accept) bytes

/-- Whether one of several globs matches the start of some bytes so that the rest is
accepted; a void branch does not count. -/
def matchBranches
    (branches : List (List GlobToken))
    (accept : List UInt8 → Bool)
    (bytes : List UInt8) :
    Bool :=
  match branches with
  | [] => false
  | branch :: rest =>
      (!isVoidSequence branch && matchSequence branch accept bytes)
        || matchBranches rest accept bytes

end

end GlobToken

/-- A pattern of paths. -/
structure Glob where
  tokens : List GlobToken
  deriving Repr, Inhabited

namespace Glob

/-- Whether a path matches.  A lone double star matches everything. -/
def accepts
    (glob : Glob)
    (path : String) :
    Bool :=
  match glob.tokens with
  | [.leadingDirectories] => true
  | tokens => GlobToken.matchSequence tokens List.isEmpty (Text.encodeUtf8 path.toList)

end Glob

end BindingStubs
