import BindingStubs.Text.Decimal

namespace BindingStubs.Text

/-!
# Shortest text of floating-point numbers

A binary floating-point number is written with the fewest decimal digits that read back as
the same number; of several such texts the one nearest to the number is taken.  All
arithmetic is exact, on natural numbers.
-/

/-- The mantissa and the binary exponent of a finite positive number. -/
structure BinaryReal where
  mantissa : Nat
  exponent : Int
  deriving Repr, DecidableEq

namespace BinaryReal

/-- The magnitude that the bits of a finite double stand for. -/
def ofBits
    (bits : UInt64) :
    BinaryReal :=
  let fraction : Nat := bits.toNat % Width.limit 52
  let biased : Nat := bits.toNat / Width.limit 52 % Width.limit 11
  if biased = 0 then ⟨fraction, -1074⟩
  else ⟨fraction + Width.limit 52, (biased : Int) - 1075⟩

/-- Numerator and denominator of `count · 2^exponent · 10^(-scale)`. -/
def ratio
    (count : Nat)
    (exponent scale : Int) :
    Nat × Nat :=
  (count * Nat.pow 2 exponent.toNat * Nat.pow 10 (-scale).toNat,
   Nat.pow 2 (-exponent).toNat * Nat.pow 10 scale.toNat)

/-- Whether `digits · 10^scale` lies between the midpoints to the two neighbours, which
belong to the interval when the mantissa is even. -/
def rounds
    (value : BinaryReal)
    (digits : Nat)
    (scale : Int) :
    Bool :=
  let atBoundary := value.mantissa = Width.limit 52 ∧ value.exponent ≠ -1074
  let low :=
    if atBoundary then ratio (4 * value.mantissa - 1) (value.exponent - 2) scale
    else ratio (2 * value.mantissa - 1) (value.exponent - 1) scale
  let high := ratio (2 * value.mantissa + 1) (value.exponent - 1) scale
  if value.mantissa % 2 = 0 then
    low.1 ≤ digits * low.2 && digits * high.2 ≤ high.1
  else
    low.1 < digits * low.2 && digits * high.2 < high.1

/-- The nearest of the two neighbours on the grid of step `10^scale` that reads back. -/
def onGrid?
    (value : BinaryReal)
    (scale : Int) :
    Option (Nat × Int) :=
  let exact := ratio value.mantissa value.exponent scale
  let below := exact.1 / exact.2
  let candidates := [below, below + 1].filter fun digits => value.rounds digits scale
  match candidates with
  | [] => none
  | [digits] => some (digits, scale)
  | first :: second :: _ =>
      let toFirst := exact.1 - first * exact.2
      let toSecond := second * exact.2 - exact.1
      if toFirst < toSecond ∨ (toFirst = toSecond ∧ first % 2 = 0) then some (first, scale)
      else some (second, scale)

/-- Try finer and finer grids. -/
def shortestFrom
    (value : BinaryReal) :
    (tries : Nat) → Int → Nat × Int
  | 0, scale => (0, scale)
  | tries + 1, scale =>
      match value.onGrid? scale with
      | some (digits, found) =>
          if digits = 0 then value.shortestFrom tries (scale - 1) else (digits, found)
      | none => value.shortestFrom tries (scale - 1)

/-- Digits and decimal exponent of the shortest decimal that reads back. -/
def shortest
    (value : BinaryReal) :
    Nat × Int :=
  value.shortestFrom 640 309

end BinaryReal

/-- Digits with a decimal point or an exponent: positional from a hundred-thousandth up to
ten to the sixteenth, with a fraction of at least one digit. -/
def placePoint
    (digits : List Char)
    (scale : Int) :
    List Char :=
  let length : Int := digits.length
  let point := length + scale
  if 0 ≤ scale ∧ point ≤ 16 then
    digits ++ List.replicate scale.toNat '0' ++ ['.', '0']
  else if 0 < point ∧ point ≤ 16 then
    digits.take point.toNat ++ '.' :: digits.drop point.toNat
  else if -5 < point ∧ point ≤ 0 then
    '0' :: '.' :: List.replicate (-point).toNat '0' ++ digits
  else
    let exponent := (ofInt (point - 1)).toList
    match digits with
    | [digit] => digit :: 'e' :: exponent
    | digit :: rest => digit :: '.' :: rest ++ 'e' :: exponent
    | [] => []

/-- Drop trailing zeros from digits and count them into the scale. -/
def dropZeros
    (digits : List Char)
    (scale : Int) :
    List Char × Int :=
  let kept := (digits.reverse.dropWhile (· == '0')).reverse
  (kept, scale + ((digits.length - kept.length : Nat) : Int))

/-- The text of the double with these bits. -/
def ofRealBits
    (bits : UInt64) :
    String :=
  let sign := if bits.toNat / Width.limit 63 = 1 then ['-'] else []
  let magnitude := bits.toNat % Width.limit 63
  if magnitude = 0 then String.ofList (sign ++ ['0', '.', '0'])
  else
    let shortest := (BinaryReal.ofBits bits).shortest
    let trimmed := dropZeros (ofNat shortest.1).toList shortest.2
    String.ofList (sign ++ placePoint trimmed.1 trimmed.2)

end BindingStubs.Text
