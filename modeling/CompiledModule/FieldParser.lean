import CompiledModule.ByteOrder

namespace CompiledModule

/-!
# Fields of a record

A fixed record is a run of bytes cut into consecutive fields.  A field parser takes its field from
the front of the run and hands on what follows, or gives nothing when the run is too short.  A
record's parser is then the sequence of its fields' parsers, in the order in which they are
stored, and the number of bytes it consumes is the sum of theirs.

Beside each field parser stands the bytes that write the field.
-/

/-- Takes a value from the front of a run of bytes and returns the bytes after it. -/
abbrev FieldParser := StateT (List UInt8) Option

namespace FieldParser

def bytes (count : Nat) : FieldParser (List UInt8) := fun input =>
  if count ≤ input.length then some (input.take count, input.drop count) else none

def word : FieldParser UInt32 := do
  return ByteOrder.file.word (← bytes 4)

def byte : FieldParser UInt8
  | [] => none
  | first :: rest => some (first, rest)

def vector (field : FieldParser α) : (count : Nat) → FieldParser (Vector α count)
  | 0 => pure #v[]
  | count + 1 => do
    let initial ← vector field count
    return initial.push (← field)

def list (record : FieldParser α) : (count : Nat) → FieldParser (List α)
  | 0 => pure []
  | count + 1 => do
    let first ← record
    return first :: (← list record count)

end FieldParser

/-- The first `count` words of a run of bytes that has as many. -/
def splitWords : (count : Nat) → List UInt8 → List UInt32
  | 0, _ => []
  | count + 1, bytes =>
    ByteOrder.file.word (bytes.take 4) :: splitWords count (bytes.drop 4)

theorem length_splitWords (count : Nat) (bytes : List UInt8) :
    (splitWords count bytes).length = count := by
  induction count generalizing bytes with
  | zero => rfl
  | succ count ih => rw [splitWords, List.length_cons, ih]

/-! ## Writing fields -/

def storedWord (word : UInt32) : List UInt8 :=
  ByteOrder.file.wordBytes word

def storedWords (words : List UInt32) : List UInt8 :=
  words.flatMap storedWord

/-- A slot of exactly `size` bytes that begins with `bytes`, cut short or filled with zeros. -/
def storedSlot (size : Nat) (bytes : List UInt8) : List UInt8 :=
  bytes.take size ++ List.replicate (size - bytes.length) 0

theorem length_storedWord (word : UInt32) : (storedWord word).length = 4 :=
  ByteOrder.length_wordBytes _ word

theorem length_storedSlot (size : Nat) (bytes : List UInt8) :
    (storedSlot size bytes).length = size := by
  simp only [storedSlot, List.length_append, List.length_take, List.length_replicate]
  omega

namespace FieldParser

theorem bytes_append (field rest : List UInt8) :
    bytes field.length (field ++ rest) = some (field, rest) := by
  simp [bytes]

theorem bytes_eq_some {count : Nat} {input field rest : List UInt8}
    (parsed : bytes count input = some (field, rest)) :
    field.length = count ∧ input = field ++ rest := by
  unfold bytes at parsed
  split at parsed
  · rename_i enough
    obtain ⟨rfl, rfl⟩ := Prod.mk.inj (Option.some.inj parsed)
    exact ⟨List.length_take_of_le enough, (List.take_append_drop count input).symm⟩
  · cases parsed

end FieldParser

end CompiledModule
