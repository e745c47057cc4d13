import CompiledModule.Memory
import CompiledModule.Size
import CompiledModule.Stream
import CompiledModule.Text.Utf8

namespace CompiledModule

/-!
# Reading a module

A module may stand anywhere in a stream: as a file of its own, or inside a larger one behind other
data.  A reader sees only the module.  Its positions count from the module's first byte, its
length ends with the stream, and it will not leave that range.

Every count that a module states is checked against the bytes that are left before anything is
read or stored, so that a damaged count ends the load with an error that says how much was asked
for and how much is there.  Each error carries the phase that the reader is in.

Actions on a reader keep it when they fail.  A request that is refused leaves the position where
it was, and a caller may go on from there.  Only when the stream itself fails in the middle of a
read does it stand somewhere else than the position says, until the reader moves it again.
-/

/-- A place in a module, over the stream that holds it. -/
structure Reader where
  stream : Stream
  /-- Where the module begins in the stream. -/
  base : Nat
  /-- How many bytes there are from the base to the end of the stream. -/
  length : Nat
  /-- How far behind the base the reader stands. -/
  position : Nat
  /-- The phase that errors are reported in. -/
  phase : Phase

/-- An action on a reader, which may fail and keeps the reader in either case. -/
abbrev Load := EStateM LoadError Reader

namespace Reader

/-- A reader at the start of the module that begins `base` bytes into a stream. -/
def open? (stream : Stream) (base : Nat) : Except LoadError Reader := do
  let atEnd ← stream.seekEnd.mapError (.io .header)
  let finish := atEnd.cursor
  if finish < base then
    throw (.truncated .header base 0 finish)
  let atBase ← (atEnd.seek base).mapError (.io .header)
  return { stream := atBase, base, length := finish - base, position := 0, phase := .header }

/-- The place that a request names, which may lie outside the module. -/
def destination (reader : Reader) : Seek → Int
  | .start offset => offset.toNat
  | .current delta => reader.position + delta
  | .fromEnd delta => reader.length + delta

end Reader

namespace Load

def enter (phase : Phase) : Load Unit :=
  modify fun reader => { reader with phase }

/-- Goes to a place inside the module.  The stream is left alone when the reader already stands
there. -/
def moveTo (place : Nat) : Load Nat := fun reader =>
  if place = reader.position then .ok place reader
  else
    match reader.stream.seek (reader.base + place) with
    | .ok stream => .ok place { reader with stream, position := place }
    | .error fault => .error (.io reader.phase fault) reader

/-- Goes where a request says, if that is inside the module or right behind it, and gives the new
position. -/
def seek (target : Seek) : Load Nat := fun reader =>
  let place := reader.destination target
  if 0 ≤ place ∧ place ≤ reader.length then moveTo place.toNat reader
  else .error (.io reader.phase (.seekOutside target reader.length)) reader

theorem seek_start_eq (offset : UInt32) (reader : Reader) :
    seek (.start offset) reader =
      if offset.toNat ≤ reader.length then moveTo offset.toNat reader
      else .error (.io reader.phase (.seekOutside (.start offset) reader.length)) reader := by
  change (if (0 : Int) ≤ (offset.toNat : Int) ∧ (offset.toNat : Int) ≤ (reader.length : Int) then
      moveTo (Int.toNat (offset.toNat : Int)) reader else _) = _
  by_cases inside : offset.toNat ≤ reader.length
  · have both : (0 : Int) ≤ (offset.toNat : Int) ∧
        (offset.toNat : Int) ≤ (reader.length : Int) := by omega
    rw [if_pos inside, if_pos both, Int.toNat_natCast]
  · have outside : ¬ ((0 : Int) ≤ (offset.toNat : Int) ∧
        (offset.toNat : Int) ≤ (reader.length : Int)) := by omega
    rw [if_neg inside, if_neg outside]

/-- Fails in the current phase, saying that `count` bytes are too many from here on. -/
def truncated (count : Nat) : Load α := fun reader =>
  .error (.truncated reader.phase reader.position count reader.length) reader

def ensure (count : Nat) : Load Unit := do
  let reader ← get
  unless reader.position + count ≤ reader.length do
    truncated count

theorem ensure_eq (count : Nat) (reader : Reader) :
    ensure count reader =
      if reader.position + count ≤ reader.length then .ok () reader
      else .error (.truncated reader.phase reader.position count reader.length) reader := by
  change (if reader.position + count ≤ reader.length then _ else _ : Load Unit) reader = _
  split <;> rfl

/-- Takes bytes that are known to be there from the stream. -/
def take (count : Nat) : Load (Bytes count) := fun reader =>
  match Stream.read count reader.stream with
  | .ok bytes stream =>
    .ok bytes { reader with stream, position := reader.position + count }
  | .error fault stream => .error (.io reader.phase fault) { reader with stream }

/-- The next `count` bytes, into room that is there already. -/
def fixed (count : Nat) : Load (Bytes count) := do
  ensure count
  take count

def record (format : Record α) : Load α := do
  return format.decode (← fixed format.size)

def word : Load UInt32 := do
  return ByteOrder.file.word (← fixed 4).val

/-- Fails unless `count` records of `size` bytes can follow. -/
def reserve (count size : Nat) : Load Unit :=
  ensure (saturated (count * size))

/-! ## Runs of values -/

section Runs

variable [Memory]

def allocate (cell : Cell) (count : Nat) : Load Unit := do
  let bytes := count * Memory.cellSize cell
  unless Memory.grants bytes do
    throw (.allocation (← get).phase (saturated bytes))

theorem allocate_eq (cell : Cell) (count : Nat) (reader : Reader) :
    allocate cell count reader =
      if Memory.grants (count * Memory.cellSize cell) then .ok () reader
      else .error (.allocation reader.phase (saturated (count * Memory.cellSize cell))) reader := by
  unfold allocate
  by_cases granted : Memory.grants (count * Memory.cellSize cell) = true
  · rw [if_pos granted, if_pos granted]
    rfl
  · rw [if_neg granted, if_neg granted]
    rfl

/-- What has been granted leaves the reader alone. -/
theorem after_allocate {cell : Cell} {count : Nat} {reader after : Reader} {value : Unit}
    (granted : allocate cell count reader = .ok value after) : after = reader := by
  rw [allocate_eq] at granted
  split at granted <;> cases granted
  rfl

theorem allocate_granted {cell : Cell} {count : Nat}
    (granted : Memory.grants (count * Memory.cellSize cell) = true) :
    allocate cell count = pure () := by
  rw [allocate, if_pos granted]

theorem allocate_bytes {count : Nat} (granted : Memory.grants count = true) :
    allocate .byte count = pure () := by
  apply allocate_granted
  rwa [Memory.cellSize_byte, Nat.mul_one]

theorem allocate_words {count : Nat} (granted : Memory.grants (count * 4) = true) :
    allocate .word count = pure () := by
  apply allocate_granted
  rwa [Memory.cellSize_word]

theorem allocate_counted [Memory.Ample] (cell : Cell) {count : Nat}
    (counted : count < 0x100000000) : allocate cell count = pure () :=
  allocate_granted (Memory.Ample.grants_counted cell count counted)

/-- The next `count` bytes, for which room is made once they are known to be there. -/
def bytes (count : Nat) : Load (List UInt8) := do
  ensure count
  allocate .byte count
  return (← fixed count).val

/-- The next `count` words, which are taken out of as many bytes as they take. -/
def words (count : Nat) : Load (List UInt32) := do
  if sizeLimit ≤ count * 4 then
    truncated (sizeLimit - 1)
  let stored ← bytes (count * 4)
  allocate .word count
  return splitWords count stored

def name (size : Nat) : Load String := do
  return nameOfSlot (← bytes size)

/-- Makes room for `count` values that are read from records of `size` bytes, which have to be
there. -/
def reserveFor (cell : Cell) (count size : Nat) : Load Unit := do
  reserve count size
  allocate cell count

theorem reserveFor_counted [Memory.Ample] (cell : Cell) {count : Nat}
    (counted : count < 0x100000000) (size : Nat) : reserveFor cell count size = reserve count size := by
  rw [reserveFor, allocate_counted cell counted, bind_pure]

end Runs

/-- The same action a number of times, with the results in order. -/
def times (action : Load α) : (count : Nat) → Load (List α)
  | 0 => pure []
  | count + 1 => do
    let first ← action
    return first :: (← times action count)

end Load

end CompiledModule
