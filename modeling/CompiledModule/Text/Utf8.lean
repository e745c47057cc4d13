namespace CompiledModule

/-!
# Text in UTF-8

Names and source text are stored as UTF-8, and nothing guarantees that stored bytes are well
formed.  Decoding therefore never fails: every maximal run of bytes that could begin a character
but does not finish one becomes a single replacement character, and so does every byte that
begins none.  Well-formed text comes back unchanged.

The decoder reads one byte at a time.  Between bytes it knows either nothing or the character it
has begun: how many bytes that character still needs, which values the next of them may have, and
the part of the code point read so far.  A byte outside the permitted values ends the begun
character as a failure and is then read again as a beginning.
-/

namespace Utf8

def encode (text : String) : List UInt8 :=
  text.toList.flatMap String.utf8EncodeChar

/-- What stands in the decoded text for bytes that are no character. -/
def replacement : Char := '\uFFFD'

/-- A character whose first bytes have been read. -/
structure Begun where
  /-- How many more bytes it needs. -/
  needed : Nat
  /-- The least and the greatest value its next byte may have. -/
  low : UInt8
  high : UInt8
  /-- The code point's bits so far. -/
  bits : Nat
  deriving DecidableEq, Repr

/-- The character that a byte of value `0x80` or more begins, if it begins one.  The bounds on the
second byte exclude overlong forms, surrogates and code points past the last one. -/
def begin? (byte : UInt8) : Option Begun :=
  if byte < 0xC2 then none
  else if byte < 0xE0 then some ⟨1, 0x80, 0xBF, byte.toNat - 0xC0⟩
  else if byte = 0xE0 then some ⟨2, 0xA0, 0xBF, 0⟩
  else if byte = 0xED then some ⟨2, 0x80, 0x9F, 0xD⟩
  else if byte < 0xF0 then some ⟨2, 0x80, 0xBF, byte.toNat - 0xE0⟩
  else if byte = 0xF0 then some ⟨3, 0x90, 0xBF, 0⟩
  else if byte < 0xF4 then some ⟨3, 0x80, 0xBF, byte.toNat - 0xF0⟩
  else if byte = 0xF4 then some ⟨3, 0x80, 0x8F, 4⟩
  else none

/-- A byte read where no character is begun: the text it settles and the character it begins. -/
def start (byte : UInt8) : List Char × Option Begun :=
  if byte < 0x80 then ([Char.ofNat byte.toNat], none)
  else
    match begin? byte with
    | some begun => ([], some begun)
    | none => ([replacement], none)

/-- A byte read inside a begun character. -/
def continue? (begun : Begun) (byte : UInt8) : List Char × Option Begun :=
  if begun.low ≤ byte ∧ byte ≤ begun.high then
    let bits := begun.bits * 64 + (byte.toNat - 0x80)
    if begun.needed ≤ 1 then ([Char.ofNat bits], none)
    else ([], some ⟨begun.needed - 1, 0x80, 0xBF, bits⟩)
  else
    let (settled, next) := start byte
    (replacement :: settled, next)

def step : Option Begun → UInt8 → List Char × Option Begun
  | none, byte => start byte
  | some begun, byte => continue? begun byte

/-- The characters of the remaining bytes.  A character still begun at the end has failed. -/
def decodeFrom : Option Begun → List UInt8 → List Char
  | none, [] => []
  | some _, [] => [replacement]
  | begun, byte :: rest =>
    let (settled, next) := step begun byte
    settled ++ decodeFrom next rest

/-- The text that bytes spell, with a replacement character for each run that spells none. -/
def decode (bytes : List UInt8) : String :=
  String.ofList (decodeFrom none bytes)

end Utf8

/-! ## Names in slots -/

/-- A stored name ends before its first zero byte, or with its slot when it has none. -/
def untilZero (bytes : List UInt8) : List UInt8 :=
  bytes.takeWhile (· != 0)

/-- The text of a name slot. -/
def nameOfSlot (bytes : List UInt8) : String :=
  Utf8.decode (untilZero bytes)

end CompiledModule
