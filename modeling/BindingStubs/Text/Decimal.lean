import BindingStubs.Width

namespace BindingStubs.Text

/-!
# Decimal and hexadecimal numerals

Numbers are written without leading zeros.  Reading accepts ASCII digits only, with an
optional sign; a number outside the range that the reader is given is not read.
-/

/-- The value of an ASCII decimal digit. -/
def digitValue?
    (character : Char) :
    Option Nat :=
  if '0' ≤ character ∧ character ≤ '9' then some (character.toNat - '0'.toNat) else none

/-- The value of an ASCII hexadecimal digit of either case. -/
def hexDigitValue?
    (character : Char) :
    Option Nat :=
  if '0' ≤ character ∧ character ≤ '9' then some (character.toNat - '0'.toNat)
  else if 'a' ≤ character ∧ character ≤ 'f' then some (character.toNat - 'a'.toNat + 10)
  else if 'A' ≤ character ∧ character ≤ 'F' then some (character.toNat - 'A'.toNat + 10)
  else none

/-- Continue reading digits in `base` onto a value already read. -/
def readDigitsFrom
    (digit? : Char → Option Nat)
    (base : Nat) :
    Nat → List Char → Option Nat
  | value, [] => some value
  | value, character :: rest =>
      match digit? character with
      | some digit => readDigitsFrom digit? base (value * base + digit) rest
      | none => none

/-- Read a non-empty run of decimal digits. -/
def readDigits? :
    List Char → Option Nat
  | [] => none
  | text => readDigitsFrom digitValue? 10 0 text

/-- Read a non-empty run of hexadecimal digits. -/
def readHexDigits? :
    List Char → Option Nat
  | [] => none
  | text => readDigitsFrom hexDigitValue? 16 0 text

/-- Read an unsigned number, which a plus sign may precede. -/
def readNat?
    (limit : Nat)
    (text : List Char) :
    Option Nat :=
  let digits :=
    match text with
    | '+' :: rest => rest
    | _ => text
  match readDigits? digits with
  | some value => if value < limit then some value else none
  | none => none

/-- Read a signed number of the given width in bits. -/
def readInt?
    (bits : Nat)
    (text : List Char) :
    Option Int :=
  let bound : Int := Width.limit (bits - 1)
  let value? : Option Int :=
    match text with
    | '-' :: rest => (readDigits? rest).map fun value => -(value : Int)
    | '+' :: rest => (readDigits? rest).map fun value => (value : Int)
    | _ => (readDigits? text).map fun value => (value : Int)
  match value? with
  | some value => if -bound ≤ value ∧ value < bound then some value else none
  | none => none

/-- Read a signed number of 128 bits, the width of integer constants. -/
def readInteger?
    (text : List Char) :
    Option Int :=
  readInt? 128 text

/-- The decimal text of a natural number. -/
def ofNat
    (value : Nat) :
    String :=
  Nat.repr value

/-- The decimal text of an integer. -/
def ofInt : Int → String
  | .ofNat value => ofNat value
  | .negSucc value => "-" ++ ofNat (value + 1)

/-- The lower-case hexadecimal text of a number, padded with zeros to a width. -/
def hexPadded
    (width value : Nat) :
    List Char :=
  let digits := Nat.toDigits 16 value
  List.replicate (width - digits.length) '0' ++ digits

end BindingStubs.Text
