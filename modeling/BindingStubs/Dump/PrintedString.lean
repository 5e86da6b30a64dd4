import BindingStubs.Text.Decimal
import BindingStubs.Text.Utf8

namespace BindingStubs

/-!
# Printed string literals

A dump prints a string literal as it could stand in a source: an optional encoding mark,
quotes and escapes.  Bytes outside ASCII are printed as octal escapes, so the text is put
together from bytes.
-/

namespace PrintedString

/-- The value of an octal digit. -/
def octalDigitValue?
    (character : Char) :
    Option Nat :=
  if '0' ≤ character ∧ character ≤ '7' then some (character.toNat - '0'.toNat) else none

/-- The number that leading digits write in a base. -/
def numberOf
    (digit? : Char → Option Nat)
    (base : Nat)
    (digits : List Char) :
    Nat :=
  digits.foldl (fun value digit => value * base + (digit? digit).getD 0) 0

/-- The character that a universal escape names by its hexadecimal number. -/
def namedCharacter
    (digits : List Char) :
    Char :=
  let unsigned :=
    match digits with
    | '+' :: rest => rest
    | _ => digits
  match Text.readHexDigits? unsigned with
  | some value => if value.isValidChar then Char.ofNat value else Text.replacementCharacter
  | none => Text.replacementCharacter

/-- The control characters that have an escape of one letter. -/
def letterEscapes : List (Char × UInt8) :=
  [('n', 0x0a), ('t', 0x09), ('r', 0x0d), ('a', 0x07), ('b', 0x08), ('f', 0x0c),
   ('v', 0x0b), ('e', 0x1b)]

/-- The bytes of an escape, given by the character behind the backslash and what follows
it, and the number of following characters that belong to the escape. -/
def escapeBytes
    (escape : Char)
    (following : List Char) :
    List UInt8 × Nat :=
  match letterEscapes.lookup escape with
  | some byte => ([byte], 0)
  | none =>
      if (octalDigitValue? escape).isSome then
        let digits := (following.take 2).takeWhile fun digit => (octalDigitValue? digit).isSome
        ([UInt8.ofNat (numberOf octalDigitValue? 8 (escape :: digits))], digits.length)
      else if escape = 'x' then
        let digits := following.takeWhile fun digit => (Text.hexDigitValue? digit).isSome
        ([UInt8.ofNat (numberOf Text.hexDigitValue? 16 digits)], digits.length)
      else if escape = 'u' then
        (Text.encodeUtf8 [namedCharacter (following.take 4)], 4)
      else if escape = 'U' then
        (Text.encodeUtf8 [namedCharacter (following.take 8)], 8)
      else (Text.encodeUtf8 [escape], 0)

/-- The bytes that a text with escapes stands for; a lone backslash at its end is
dropped. -/
def bytes
    (text : List Char) :
    List UInt8 :=
  match text with
  | [] => []
  | ['\\'] => []
  | '\\' :: escape :: following =>
      let read := escapeBytes escape following
      read.1 ++ bytes (following.drop read.2)
  | character :: rest => Text.encodeUtf8 [character] ++ bytes rest
termination_by text.length
decreasing_by all_goals simp; try omega

/-- What stands between the first and the last quote, if there are two. -/
def body?
    (printed : List Char) :
    Option (List Char) :=
  let behindFirst := (printed.dropWhile (· != '"')).drop 1
  if behindFirst.contains '"' then
    some ((behindFirst.reverse.dropWhile (· != '"')).drop 1).reverse
  else none

/-- The text of a printed string literal; one without quotes stands for itself. -/
def decode
    (printed : String) :
    String :=
  match body? printed.toList with
  | some body => String.ofList (Text.decodeUtf8 (bytes body))
  | none => printed

end PrintedString

end BindingStubs
