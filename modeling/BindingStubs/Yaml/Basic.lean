import BindingStubs.Text.Decimal

namespace BindingStubs

/-!
# YAML values

A YAML value is a scalar, a sequence or a mapping.  A scalar is text; only one that stands
without quotes can be read as null, as a Boolean or as a number.
-/

/-- A YAML value. -/
inductive Yaml where
  | scalar (text : String) (isPlain : Bool)
  | sequence (items : List Yaml)
  | mapping (entries : List (Yaml × Yaml))
  deriving Repr, Inhabited

namespace Yaml

/-- The value where nothing is written. -/
def empty : Yaml := .scalar "" true

/-- The words for null. -/
def nullWords : List String := ["null", "Null", "NULL", "~"]

/-- The words for Booleans. -/
def boolWords : List (String × Bool) :=
  [("true", true), ("True", true), ("TRUE", true),
   ("false", false), ("False", false), ("FALSE", false)]

/-- Text that starts with a sign. -/
def isSigned : List Char → Bool
  | '+' :: _ => true
  | '-' :: _ => true
  | _ => false

/-- Digits with a leading zero, which are no number. -/
def isPaddedNumber
    (text : List Char) :
    Bool :=
  let digits :=
    match text with
    | '+' :: rest => rest
    | '-' :: rest => rest
    | _ => text
  match digits with
  | '0' :: next :: rest => (next :: rest).all fun digit => (Text.digitValue? digit).isSome
  | _ => false

/-- Digits in a base, which must not be signed. -/
def readBase?
    (base : Nat)
    (digits : List Char) :
    Option Nat :=
  let digit? (character : Char) : Option Nat :=
    match Text.hexDigitValue? character with
    | some value => if value < base then some value else none
    | none => none
  match digits with
  | [] => none
  | _ => Text.readDigitsFrom digit? base 0 digits

/-- A number below a limit. -/
def below?
    (limit : Nat) :
    Option Nat → Option Nat
  | some value => if value < limit then some value else none
  | none => none

/-- Read an unsigned number below a limit in decimal, hexadecimal, octal or binary. -/
def readNatural?
    (limit : Nat)
    (text : List Char) :
    Option Nat :=
  let unsigned :=
    match text with
    | '+' :: rest => rest
    | _ => text
  match unsigned with
  | '0' :: 'x' :: digits => below? limit (readBase? 16 digits)
  | '0' :: 'o' :: digits => below? limit (readBase? 8 digits)
  | '0' :: 'b' :: digits => below? limit (readBase? 2 digits)
  | _ =>
      if isSigned unsigned || isPaddedNumber text then none
      else below? limit (readBase? 10 unsigned)

/-- Read the magnitude of a negative number up to a limit. -/
def readNegative?
    (limit : Nat) :
    List Char → Option Nat
  | '-' :: '0' :: 'x' :: digits => below? (limit + 1) (readBase? 16 digits)
  | '-' :: '0' :: 'o' :: digits => below? (limit + 1) (readBase? 8 digits)
  | '-' :: '0' :: 'b' :: digits => below? (limit + 1) (readBase? 2 digits)
  | '-' :: digits =>
      if isPaddedNumber ('-' :: digits) then none else below? (limit + 1) (readBase? 10 digits)
  | _ => none

/-- Whether text is an integer of 128 bits. -/
def isInteger
    (text : List Char) :
    Bool :=
  (readNatural? (Width.limit 128) text).isSome || (readNegative? (Width.limit 127) text).isSome

/-- Whether a significand times a power of ten is within the range of doubles. -/
def isFiniteReal
    (significand : Nat)
    (exponent : Int) :
    Bool :=
  let digits : Int := (Text.ofNat significand).length
  if significand = 0 || digits + exponent < 300 then true
  else if 400 < digits + exponent then false
  else if 0 ≤ exponent then
    significand * Nat.pow 10 exponent.toNat < Width.limit 1024 - Width.limit 970
  else significand < (Width.limit 1024 - Width.limit 970) * Nat.pow 10 exponent.natAbs

/-- The exponent behind the digits of a real number. -/
def readExponent? : List Char → Option Int
  | [] => some 0
  | mark :: rest =>
      if mark = 'e' ∨ mark = 'E' then
        match rest with
        | '+' :: digits => (Text.readDigits? digits).map fun value => (value : Int)
        | '-' :: digits => (Text.readDigits? digits).map fun value => -(value : Int)
        | digits => (Text.readDigits? digits).map fun value => (value : Int)
      else none

/-- Whether text is a decimal real number within the range of doubles. -/
def isDecimalReal
    (text : List Char) :
    Bool :=
  let unsigned :=
    match text with
    | '+' :: rest => rest
    | '-' :: rest => rest
    | _ => text
  let isDigit (character : Char) : Bool := (Text.digitValue? character).isSome
  let whole := unsigned.takeWhile isDigit
  let behind := unsigned.dropWhile isDigit
  let (fraction, rest) :=
    match behind with
    | '.' :: rest => (rest.takeWhile isDigit, rest.dropWhile isDigit)
    | _ => ([], behind)
  if (whole ++ fraction).isEmpty then false
  else
    match readExponent? rest with
    | some exponent =>
        isFiniteReal ((Text.readDigits? (whole ++ fraction)).getD 0)
          (exponent - (fraction.length : Int))
    | none => false

/-- The words for infinity and for what is no number. -/
def realWords : List String :=
  [".inf", ".Inf", ".INF", "+.inf", "+.Inf", "+.INF", "-.inf", "-.Inf", "-.INF",
   ".nan", ".NaN", ".NAN"]

/-- Whether text is a real number. -/
def isReal
    (text : String) :
    Bool :=
  let unsigned :=
    match text.toList with
    | '+' :: rest => rest
    | characters => characters
  realWords.contains text
    || (!(isSigned unsigned && text.toList != unsigned) && isDecimalReal unsigned)

/-- Whether text without quotes would be read as something other than text. -/
def readsAsOther
    (text : String) :
    Bool :=
  text.isEmpty || nullWords.contains text || (boolWords.lookup text).isSome
    || isInteger text.toList || isPaddedNumber text.toList || isReal text

/-! ## Reading values -/

/-- Whether a value stands for an absent one: nothing, or a word for null. -/
def isAbsent : Yaml → Bool
  | .scalar text true => text.isEmpty || nullWords.contains text
  | _ => false

/-- The text of a scalar, with or without quotes. -/
def text? : Yaml → Option String
  | .scalar text _ => some text
  | _ => none

/-- The Boolean that a word without quotes stands for. -/
def bool? : Yaml → Option Bool
  | .scalar text true => boolWords.lookup text
  | _ => none

/-- The number of 64 bits that text without quotes stands for. -/
def nat? : Yaml → Option Nat
  | .scalar text true => readNatural? (Width.limit 64) text.toList
  | _ => none

/-- The items of a sequence; where nothing is written there are none. -/
def items? : Yaml → Option (List Yaml)
  | .sequence items => some items
  | .scalar "" true => some []
  | _ => none

/-- The entries of a mapping; where nothing is written there are none. -/
def entries? : Yaml → Option (List (Yaml × Yaml))
  | .mapping entries => some entries
  | .scalar "" true => some []
  | _ => none

end Yaml

end BindingStubs
