import BindingStubs.Text.Decimal

namespace BindingStubs

/-!
# The hash function xxh64

The 64-bit hash of a sequence of bytes with seed zero.  Blocks of 32 bytes are mixed into
four lanes; what is left is mixed in groups of eight, four and one.
-/

namespace Xxh64

/-- The first of the five mixing constants. -/
def prime1 : UInt64 := 0x9E3779B185EBCA87

/-- The second mixing constant. -/
def prime2 : UInt64 := 0xC2B2AE3D27D4EB4F

/-- The third mixing constant. -/
def prime3 : UInt64 := 0x165667B19E3779F9

/-- The fourth mixing constant. -/
def prime4 : UInt64 := 0x85EBCA77C2B2AE63

/-- The fifth mixing constant. -/
def prime5 : UInt64 := 0x27D4EB2F165667C5

/-- Rotate a word to the left. -/
def rotate
    (word amount : UInt64) :
    UInt64 :=
  (word <<< amount) ||| (word >>> (64 - amount))

/-- The number whose bytes are given, lowest first. -/
def littleEndian : List UInt8 → UInt64
  | [] => 0
  | byte :: rest => byte.toUInt64 + 256 * littleEndian rest

/-- Mix a word into a lane. -/
def round
    (lane word : UInt64) :
    UInt64 :=
  rotate (lane + word * prime2) 31 * prime1

/-- Mix a lane into the combined hash. -/
def mergeLane
    (hash lane : UInt64) :
    UInt64 :=
  (hash ^^^ round 0 lane) * prime1 + prime4

/-- The four lanes. -/
structure Lanes where
  first : UInt64
  second : UInt64
  third : UInt64
  fourth : UInt64
  deriving Repr, DecidableEq

/-- The lanes before any block. -/
def initialLanes : Lanes :=
  ⟨prime1 + prime2, prime2, 0, 0 - prime1⟩

/-- Mix a block of 32 bytes into the lanes. -/
def mixBlock
    (lanes : Lanes)
    (block : List UInt8) :
    Lanes :=
  { first := round lanes.first (littleEndian (block.take 8))
    second := round lanes.second (littleEndian ((block.drop 8).take 8))
    third := round lanes.third (littleEndian ((block.drop 16).take 8))
    fourth := round lanes.fourth (littleEndian ((block.drop 24).take 8)) }

/-- Mix a number of blocks into the lanes and return the bytes behind them. -/
def mixBlocks :
    (count : Nat) → Lanes → List UInt8 → Lanes × List UInt8
  | 0, lanes, bytes => (lanes, bytes)
  | count + 1, lanes, bytes => mixBlocks count (mixBlock lanes bytes) (bytes.drop 32)

/-- Combine the lanes. -/
def combine
    (lanes : Lanes) :
    UInt64 :=
  let sum :=
    rotate lanes.first 1 + rotate lanes.second 7 + rotate lanes.third 12
      + rotate lanes.fourth 18
  mergeLane
    (mergeLane (mergeLane (mergeLane sum lanes.first) lanes.second) lanes.third)
    lanes.fourth

/-- Mix in a word of eight bytes. -/
def mixWord
    (hash : UInt64)
    (bytes : List UInt8) :
    UInt64 :=
  rotate (hash ^^^ round 0 (littleEndian bytes)) 27 * prime1 + prime4

/-- Mix in a half word of four bytes. -/
def mixHalf
    (hash : UInt64)
    (bytes : List UInt8) :
    UInt64 :=
  rotate (hash ^^^ littleEndian bytes * prime1) 23 * prime2 + prime3

/-- Mix in a single byte. -/
def mixByte
    (hash : UInt64)
    (byte : UInt8) :
    UInt64 :=
  rotate (hash ^^^ byte.toUInt64 * prime5) 11 * prime1

/-- Mix in fewer than 32 bytes: words first, then a half word, then single bytes. -/
def mixRest :
    (words : Nat) → UInt64 → List UInt8 → UInt64
  | words + 1, hash, bytes => mixRest words (mixWord hash (bytes.take 8)) (bytes.drop 8)
  | 0, hash, bytes =>
      if 4 ≤ bytes.length then (bytes.drop 4).foldl mixByte (mixHalf hash (bytes.take 4))
      else bytes.foldl mixByte hash

/-- Spread the influence of every bit. -/
def avalanche
    (hash : UInt64) :
    UInt64 :=
  let first := (hash ^^^ (hash >>> 33)) * prime2
  let second := (first ^^^ (first >>> 29)) * prime3
  second ^^^ (second >>> 32)

/-- The hash of a sequence of bytes. -/
def hash
    (bytes : List UInt8) :
    UInt64 :=
  let length := bytes.length
  let (start, rest) :=
    if length < 32 then (prime5, bytes)
    else
      let mixed := mixBlocks (length / 32) initialLanes bytes
      (combine mixed.1, mixed.2)
  avalanche (mixRest (rest.length / 8) (start + length.toUInt64) rest)

/-- A hash as sixteen hexadecimal digits. -/
def text
    (value : UInt64) :
    String :=
  String.ofList (Text.hexPadded 16 value.toNat)

end Xxh64

end BindingStubs
