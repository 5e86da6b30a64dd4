import BindingStubs.Text.Decimal
import BindingStubs.Text.Printable

namespace BindingStubs.Text

/-!
# Quoted diagnostics

A text in a diagnostic stands in double quotes.  Quotes, backslashes and the common control
characters are escaped by a letter, other characters that cannot be shown by their number.
-/

/-- One character of a quoted diagnostic. -/
def quoteCharacter
    (character : Char) :
    List Char :=
  if character = '\x00' then ['\\', '0']
  else if character = '\t' then ['\\', 't']
  else if character = '\r' then ['\\', 'r']
  else if character = '\n' then ['\\', 'n']
  else if character = '"' then ['\\', '"']
  else if character = '\\' then ['\\', '\\']
  else if isPrintable character then [character]
  else '\\' :: 'u' :: '\x7b' :: Nat.toDigits 16 character.toNat ++ ['\x7d']

/-- A text in double quotes. -/
def quoted
    (text : String) :
    String :=
  String.ofList ('"' :: text.toList.flatMap quoteCharacter ++ ['"'])

end BindingStubs.Text
