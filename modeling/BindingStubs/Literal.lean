import BindingStubs.Text.Basic
import BindingStubs.Text.Decimal

namespace BindingStubs

/-!
# Literals

Constants and enumerators carry literal values.  Numbers keep the text of their source;
`Literal.render` gives the Python expression for a literal.
-/

/-- A literal value. -/
inductive Literal where
  | integer (digits : String)
  | float (digits : String)
  | bool (value : Bool)
  | string (value : String)
  deriving Repr, DecidableEq

namespace Literal

/-- One character of a quoted Python string. -/
def escapeCharacter
    (character : Char) :
    List Char :=
  if character = '"' then ['\\', '"']
  else if character = '\\' then ['\\', '\\']
  else if character = '\n' then ['\\', 'n']
  else if character = '\t' then ['\\', 't']
  else if character = '\r' then ['\\', 'r']
  else if character.toNat < 0x20 then '\\' :: 'x' :: Text.hexPadded 2 character.toNat
  else [character]

/-- A text as a Python string literal in double quotes. -/
def quote
    (text : List Char) :
    List Char :=
  '"' :: text.flatMap escapeCharacter ++ ['"']

/-- Whether the text of a number already reads as a Python float. -/
def readsAsFloat
    (digits : List Char) :
    Bool :=
  digits.any (fun character => character == '.' || character == 'e' || character == 'E')
    || Text.occursIn "inf".toList digits || Text.occursIn "nan".toList digits

/-- The Python expression for a literal. -/
def render : Literal → String
  | .integer digits => digits
  | .float digits => if readsAsFloat digits.toList then digits else digits ++ ".0"
  | .bool true => "True"
  | .bool false => "False"
  | .string value => String.ofList (quote value.toList)

/-- Whether the literal is an integer. -/
def isInteger : Literal → Bool
  | .integer _ => true
  | _ => false

/-- Whether the literal is a string. -/
def isString : Literal → Bool
  | .string _ => true
  | _ => false

/-- The value of an integer literal that fits 128 bits. -/
def integerValue? : Literal → Option Int
  | .integer digits => Text.readInteger? digits.toList
  | _ => none

end Literal

end BindingStubs
