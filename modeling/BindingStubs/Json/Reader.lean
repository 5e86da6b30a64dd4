import BindingStubs.Json.Numeral

namespace BindingStubs.Json

/-!
# Reading JSON

A reader takes characters and returns a value and the characters behind it.  A document is
one value with blanks around it.  Numbers and strings that are well-formed but stand for no
value are kept as `Json.unreadable`, so that only those who need their value refuse them.
-/

/-- Whether a character is one of the four blanks of the format. -/
def isBlank
    (character : Char) :
    Bool :=
  character == ' ' || character == '\t' || character == '\n' || character == '\r'

/-- Pass over blanks. -/
def skipBlanks
    (text : List Char) :
    List Char :=
  text.dropWhile isBlank

/-- A character of a string, or a 16-bit unit given by its hexadecimal number. -/
inductive StringUnit where
  | character (value : Char)
  | unit (value : Nat)
  deriving Repr, DecidableEq

/-- The character that a one-letter escape stands for. -/
def escapedCharacter?
    (letter : Char) :
    Option Char :=
  if letter = '"' ∨ letter = '\\' ∨ letter = '/' then some letter
  else if letter = 'b' then some '\x08'
  else if letter = 'f' then some '\x0c'
  else if letter = 'n' then some '\n'
  else if letter = 'r' then some '\r'
  else if letter = 't' then some '\t'
  else none

/-- The units of a string up to its closing quote, and the text behind it. -/
def readUnits? :
    List Char → Option (List StringUnit × List Char)
  | [] => none
  | '"' :: rest => some ([], rest)
  | '\\' :: 'u' :: a :: b :: c :: d :: rest =>
      match Text.readHexDigits? [a, b, c, d] with
      | some value =>
          (readUnits? rest).map fun read => (.unit value :: read.1, read.2)
      | none => none
  | '\\' :: letter :: rest =>
      match escapedCharacter? letter with
      | some character =>
          (readUnits? rest).map fun read => (.character character :: read.1, read.2)
      | none => none
  | '\\' :: [] => none
  | character :: rest =>
      if character.toNat < 0x20 then none
      else (readUnits? rest).map fun read => (.character character :: read.1, read.2)

/-- Whether a unit is the first half of a surrogate pair. -/
def isLeading
    (unit : Nat) :
    Bool :=
  0xD800 ≤ unit && unit < 0xDC00

/-- Whether a unit is the second half of a surrogate pair. -/
def isTrailing
    (unit : Nat) :
    Bool :=
  0xDC00 ≤ unit && unit < 0xE000

/-- The characters of the units; a half of a surrogate pair alone is none. -/
def assemble? :
    List StringUnit → Option (List Char)
  | [] => some []
  | .character value :: rest => (assemble? rest).map (value :: ·)
  | .unit first :: .unit second :: rest =>
      if isLeading first then
        if isTrailing second then
          (assemble? rest).map
            (Char.ofNat (0x10000 + (first - 0xD800) * 0x400 + (second - 0xDC00)) :: ·)
        else none
      else if isTrailing first then none
      else (assemble? (.unit second :: rest)).map (Char.ofNat first :: ·)
  | .unit value :: rest =>
      if isLeading value || isTrailing value then none
      else (assemble? rest).map (Char.ofNat value :: ·)

/-- A string value, unreadable when its units are no characters. -/
def stringValue
    (units : List StringUnit) :
    Json :=
  match assemble? units with
  | some characters => .string (String.ofList characters)
  | none => .unreadable

/-- A number value, unreadable when it is out of range. -/
def numberValue
    (numeral : Numeral) :
    Json :=
  match numeral.value? with
  | some value => .number value
  | none => .unreadable

mutual

/-- Read a value.  Each nested reading takes one step, and a text has no more nested
readings than twice its characters. -/
def readValue? :
    (steps : Nat) → List Char → Option (Json × List Char)
  | 0, _ => none
  | steps + 1, text =>
      match skipBlanks text with
      | [] => none
      | 'n' :: 'u' :: 'l' :: 'l' :: rest => some (.null, rest)
      | 't' :: 'r' :: 'u' :: 'e' :: rest => some (.bool true, rest)
      | 'f' :: 'a' :: 'l' :: 's' :: 'e' :: rest => some (.bool false, rest)
      | '"' :: rest => (readUnits? rest).map fun read => (stringValue read.1, read.2)
      | '[' :: rest =>
          match skipBlanks rest with
          | ']' :: after => some (.array [], after)
          | items => (readItems? steps items).map fun read => (.array read.1, read.2)
      | '\x7b' :: rest =>
          match skipBlanks rest with
          | '\x7d' :: after => some (.object [], after)
          | fields => (readFields? steps fields).map fun read => (.object read.1, read.2)
      | numeral => (Numeral.scan? numeral).map fun read => (numberValue read.1, read.2)

/-- Read the items of an array up to its closing bracket. -/
def readItems? :
    (steps : Nat) → List Char → Option (List Json × List Char)
  | 0, _ => none
  | steps + 1, text =>
      match readValue? steps text with
      | none => none
      | some (item, rest) =>
          match skipBlanks rest with
          | ']' :: after => some ([item], after)
          | ',' :: after =>
              (readItems? steps after).map fun read => (item :: read.1, read.2)
          | _ => none

/-- Read the fields of an object up to its closing brace. -/
def readFields? :
    (steps : Nat) → List Char → Option (List (String × Json) × List Char)
  | 0, _ => none
  | steps + 1, text =>
      match skipBlanks text with
      | '"' :: quoted =>
          match readUnits? quoted with
          | none => none
          | some (units, afterName) =>
              match assemble? units, skipBlanks afterName with
              | some name, ':' :: afterColon =>
                  match readValue? steps afterColon with
                  | none => none
                  | some (value, rest) =>
                      let field := (String.ofList name, value)
                      match skipBlanks rest with
                      | '\x7d' :: after => some ([field], after)
                      | ',' :: after =>
                          (readFields? steps after).map fun read => (field :: read.1, read.2)
                      | _ => none
              | _, _ => none
      | _ => none

end

/-- Read a whole document. -/
def parse?
    (text : List Char) :
    Option Json :=
  match readValue? (2 * text.length + 2) text with
  | some (value, rest) => if (skipBlanks rest).isEmpty then some value else none
  | none => none

end BindingStubs.Json
