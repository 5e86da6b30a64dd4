namespace BindingStubs.Text

/-!
# UTF-8

Characters are written as one to four bytes.  Reading is lenient: a sequence of bytes that
is the beginning of no character, or that breaks off, is read as one replacement character.
-/

/-- The character that stands for bytes that cannot be read. -/
def replacementCharacter : Char := '\uFFFD'

/-- The bytes of a text. -/
def encodeUtf8
    (text : List Char) :
    List UInt8 :=
  text.flatMap String.utf8EncodeChar

/-- The smallest and greatest second byte that may follow a first byte of a longer
character. -/
def secondByteRange
    (first : Nat) :
    Nat × Nat :=
  if first = 0xE0 then (0xA0, 0xBF)
  else if first = 0xED then (0x80, 0x9F)
  else if first = 0xF0 then (0x90, 0xBF)
  else if first = 0xF4 then (0x80, 0x8F)
  else (0x80, 0xBF)

/-- The number of bytes of a character that starts with a byte; none starts with others. -/
def sequenceLength
    (first : Nat) :
    Nat :=
  if first < 0x80 then 1
  else if first < 0xC2 then 0
  else if first < 0xE0 then 2
  else if first < 0xF0 then 3
  else if first < 0xF5 then 4
  else 0

/-- Whether a byte continues a character. -/
def isContinuation
    (byte : Nat) :
    Bool :=
  0x80 ≤ byte && byte ≤ 0xBF

/-- Read one character that starts with `first`: the character, and how many of the
following bytes belong to it. -/
def decodeCharacter
    (first : Nat)
    (following : List UInt8) :
    Char × Nat :=
  match sequenceLength first, following.map UInt8.toNat with
  | 1, _ => (Char.ofNat first, 0)
  | 2, second :: _ =>
      if isContinuation second then
        (Char.ofNat ((first - 0xC0) * 0x40 + (second - 0x80)), 1)
      else (replacementCharacter, 0)
  | 3, second :: rest =>
      if (secondByteRange first).1 ≤ second && second ≤ (secondByteRange first).2 then
        match rest with
        | third :: _ =>
            if isContinuation third then
              (Char.ofNat ((first - 0xE0) * 0x1000 + (second - 0x80) * 0x40 + (third - 0x80)), 2)
            else (replacementCharacter, 1)
        | [] => (replacementCharacter, 1)
      else (replacementCharacter, 0)
  | 4, second :: rest =>
      if (secondByteRange first).1 ≤ second && second ≤ (secondByteRange first).2 then
        match rest with
        | third :: fourth :: _ =>
            if isContinuation third then
              if isContinuation fourth then
                (Char.ofNat ((first - 0xF0) * 0x40000 + (second - 0x80) * 0x1000
                  + (third - 0x80) * 0x40 + (fourth - 0x80)), 3)
              else (replacementCharacter, 2)
            else (replacementCharacter, 1)
        | [third] => (replacementCharacter, if isContinuation third then 2 else 1)
        | [] => (replacementCharacter, 1)
      else (replacementCharacter, 0)
  | _, _ => (replacementCharacter, 0)

/-- Read characters after passing over `skip` bytes of the last one. -/
def decodeAfter :
    Nat → List UInt8 → List Char
  | _, [] => []
  | skip + 1, _ :: rest => decodeAfter skip rest
  | 0, byte :: rest =>
      let read := decodeCharacter byte.toNat (rest.take 3)
      read.1 :: decodeAfter read.2 rest

/-- The text of a sequence of bytes. -/
def decodeUtf8
    (bytes : List UInt8) :
    List Char :=
  decodeAfter 0 bytes

end BindingStubs.Text
