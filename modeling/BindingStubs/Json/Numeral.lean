import BindingStubs.Json.Basic

namespace BindingStubs.Json

/-!
# Reading JSON numbers

A numeral is scanned into sign, digits, fraction and exponent, and then valued.  Integers
of 64 bits keep their value.  Every other numeral becomes a double: its leading digits are
collected into a 64-bit significand, which is then scaled by powers of ten.  A numeral
beyond the range of doubles has no value.
-/

/-- The parts of a numeral. -/
structure Numeral where
  isNegative : Bool
  whole : List Char
  fraction : Option (List Char)
  exponent : Option (Bool × List Char)
  deriving Repr, DecidableEq

namespace Numeral

/-- Whether a character is an ASCII digit. -/
def isDigit
    (character : Char) :
    Bool :=
  '0' ≤ character && character ≤ '9'

/-- Scan the digits before the point: a single zero, or digits that start with another. -/
def scanWhole? :
    List Char → Option (List Char × List Char)
  | '0' :: rest =>
      match rest with
      | next :: _ => if isDigit next then none else some (['0'], rest)
      | [] => some (['0'], [])
  | text =>
      let digits := text.takeWhile isDigit
      if digits.isEmpty then none else some (digits, text.dropWhile isDigit)

/-- Scan an optional fraction. -/
def scanFraction? :
    List Char → Option (Option (List Char) × List Char)
  | '.' :: rest =>
      let digits := rest.takeWhile isDigit
      if digits.isEmpty then none else some (some digits, rest.dropWhile isDigit)
  | text => some (none, text)

/-- Scan the sign and digits of an exponent; the sign is true for a negative one. -/
def scanExponentDigits?
    (isNegative : Bool)
    (text : List Char) :
    Option (Option (Bool × List Char) × List Char) :=
  let digits := text.takeWhile isDigit
  if digits.isEmpty then none
  else some (some (isNegative, digits), text.dropWhile isDigit)

/-- Scan an optional exponent. -/
def scanExponent? :
    List Char → Option (Option (Bool × List Char) × List Char)
  | mark :: rest =>
      if mark = 'e' ∨ mark = 'E' then
        match rest with
        | '+' :: digits => scanExponentDigits? false digits
        | '-' :: digits => scanExponentDigits? true digits
        | _ => scanExponentDigits? false rest
      else some (none, mark :: rest)
  | [] => some (none, [])

/-- Scan a numeral from the front of a text. -/
def scan?
    (text : List Char) :
    Option (Numeral × List Char) := do
  let (isNegative, unsigned) :=
    match text with
    | '-' :: rest => (true, rest)
    | _ => (false, text)
  let (whole, afterWhole) ← scanWhole? unsigned
  let (fraction, afterFraction) ← scanFraction? afterWhole
  let (exponent, rest) ← scanExponent? afterFraction
  return ({ isNegative, whole, fraction, exponent }, rest)

/-- The value of a run of digits. -/
def digitsValue
    (digits : List Char) :
    Nat :=
  digits.foldl (fun value digit => value * 10 + (digit.toNat - '0'.toNat)) 0

/-- Collect digits into a significand below two to the 64; the first digit that does not
fit ends it.  Returns the significand and the digits left over. -/
def collect :
    Nat → List Char → Nat × List Char
  | significand, [] => (significand, [])
  | significand, digit :: rest =>
      let next := significand * 10 + (digit.toNat - '0'.toNat)
      if next < Width.limit 64 then collect next rest else (significand, digit :: rest)

/-- The double with a sign and a magnitude. -/
def signed
    (isNegative : Bool)
    (magnitude : Float) :
    JsonNumber :=
  .real (if isNegative then -magnitude else magnitude).toBits

/-- Scale a significand by a power of ten, in steps that doubles can express. -/
def scale?
    (isNegative : Bool) :
    (steps : Nat) → Float → Int → Option JsonNumber
  | 0, magnitude, _ => some (signed isNegative magnitude)
  | steps + 1, magnitude, exponent =>
      if exponent.natAbs ≤ 308 then
        if 0 ≤ exponent then
          let scaled := magnitude * Float.ofScientific 1 false exponent.natAbs
          if scaled.isInf then none else some (signed isNegative scaled)
        else
          some (signed isNegative (magnitude / Float.ofScientific 1 false exponent.natAbs))
      else if magnitude == 0.0 then some (signed isNegative magnitude)
      else if 0 ≤ exponent then none
      else
        scale? isNegative steps (magnitude / Float.ofScientific 1 false 308) (exponent + 308)

/-- The value of a numeral as a double. -/
def realValue?
    (numeral : Numeral) :
    Option JsonNumber :=
  let (head, dropped) := collect 0 numeral.whole
  let fraction := numeral.fraction.getD []
  let (significand, ignored) :=
    if dropped.isEmpty then collect head fraction else (head, fraction)
  let point : Int := (dropped.length : Int) - ((fraction.length - ignored.length : Nat) : Int)
  let magnitude := significand.toUInt64.toFloat
  match numeral.exponent with
  | none => scale? numeral.isNegative 8 magnitude point
  | some (isNegative, digits) =>
      let amount := digitsValue digits
      if Width.limit 31 ≤ amount then
        if significand ≠ 0 ∧ !isNegative then none
        else some (signed numeral.isNegative 0.0)
      else
        let exponent : Int := if isNegative then -(amount : Int) else amount
        scale? numeral.isNegative 8 magnitude (point + exponent)

/-- The value of a numeral. -/
def value?
    (numeral : Numeral) :
    Option JsonNumber :=
  if numeral.fraction.isNone && numeral.exponent.isNone then
    let value := digitsValue numeral.whole
    if !numeral.isNegative && value < Width.limit 64 then some (.natural value)
    else if numeral.isNegative && 0 < value && value ≤ Width.limit 63 then
      some (.negative (value - 1))
    else numeral.realValue?
  else numeral.realValue?

end Numeral

end BindingStubs.Json
