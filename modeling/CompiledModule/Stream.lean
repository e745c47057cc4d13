import CompiledModule.Error
import CompiledModule.Record

namespace CompiledModule

/-!
# Streams

A module is read from a stream of bytes that can be moved.  A stream reports how long it is, and
need not tell the truth; it may also refuse to move or to be read.  Those refusals are part of the
stream's description here, so that what a load does on a failing stream is a question about a
value like any other.
-/

/-- The places that a stream does not move to. -/
structure SeekFaults where
  refuses : Nat → Bool

/-- The reads that a stream breaks off. -/
structure ReadFaults where
  /-- Where a read of `count` bytes from `start` on is broken off in a stream that holds `size`
  bytes, if it is. -/
  stop? : (size start count : Nat) → Option Nat

/-- A single place that is refused, or none. -/
instance : Coe (Option Nat) SeekFaults where
  coe place? := ⟨fun place => place? = some place⟩

/-- Every place from one on is refused, or none.  A read that runs out of bytes before that place
does not come to it. -/
instance : Coe (Option Nat) ReadFaults where
  coe place? := ⟨fun size start count => place?.bind fun place =>
    if place < start + count ∧ (place ≤ start ∨ place ≤ size) then some (max start place)
    else none⟩

/-- Which requests a stream refuses. -/
structure Faults where
  /-- It does not move to its end. -/
  atEnd : Bool
  seekTo : SeekFaults
  readFrom : ReadFaults

def Faults.none : Faults :=
  ⟨false, ⟨fun _ => false⟩, ⟨fun _ _ _ => Option.none⟩⟩

/-- A stream: what it holds, how long it says it is, what it refuses, and where it stands. -/
structure Stream where
  contents : Array UInt8
  length : Nat
  faults : Faults
  cursor : Nat

namespace Stream

def ofBytes (contents : List UInt8) : Stream :=
  ⟨contents.toArray, contents.length, .none, 0⟩

def seekEnd (stream : Stream) : Except Fault Stream :=
  if stream.faults.atEnd then .error .seekRefused
  else .ok { stream with cursor := stream.length }

/-- The stream at a place counted from its beginning. -/
def seek (stream : Stream) (place : Nat) : Except Fault Stream :=
  if stream.faults.seekTo.refuses place then .error .seekRefused
  else .ok { stream with cursor := place }

/-- Where reading `count` bytes is broken off, if it is.  Nothing is asked when nothing is read. -/
def breakOff? (stream : Stream) (count : Nat) : Option Nat :=
  if count = 0 then none
  else stream.faults.readFrom.stop? stream.contents.size stream.cursor count

/-- The next `count` bytes, or as many of them as there are. -/
def next (stream : Stream) (count : Nat) : List UInt8 :=
  (stream.contents.extract stream.cursor (stream.cursor + count)).toList

theorem next_eq (stream : Stream) (count : Nat) :
    stream.next count = (stream.contents.toList.drop stream.cursor).take count := by
  rw [next, Array.toList_extract, List.extract_eq_take_drop, Nat.add_sub_cancel_left]

/-- Reads the next `count` bytes.  A read that fails has still moved the stream: over the bytes that
it could have, up to the place where it stopped. -/
def read (count : Nat) : EStateM Fault Stream (Bytes count) := fun stream =>
  match stream.breakOff? count with
  | some stop => .error .readRefused { stream with cursor := stop }
  | none =>
    let next := stream.next count
    if exact : next.length = count then
      .ok ⟨next, exact⟩ { stream with cursor := stream.cursor + count }
    else
      .error .endOfData { stream with cursor := stream.cursor + next.length }

theorem breakOff?_sound {stream : Stream} (sound : stream.faults = .none) (count : Nat) :
    stream.breakOff? count = none := by
  rw [breakOff?, sound]
  split <;> rfl

/-- A read that is not broken off fails only where there are no more bytes. -/
theorem read_of_granted {stream : Stream} {count : Nat}
    (granted : stream.breakOff? count = none) :
    read count stream =
      if exact : (stream.next count).length = count then
        .ok ⟨stream.next count, exact⟩ { stream with cursor := stream.cursor + count }
      else
        .error .endOfData
          { stream with cursor := stream.cursor + (stream.next count).length } := by
  rw [read, granted]

end Stream

end CompiledModule
