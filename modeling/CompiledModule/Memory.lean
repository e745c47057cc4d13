namespace CompiledModule

/-!
# Memory

A load keeps what it reads in runs of values, and it asks for the room of a whole run at once.  How
much room a value takes and which requests are granted is up to the machine.  Both are parameters of
everything that loads, and a request that is not granted ends the load.

A count that a module states is compared with the bytes that are left before any room is asked for.
So a machine that has room for as many values as a word can count never refuses a load.
-/

/-- The kinds of values that are kept in runs. -/
inductive Cell where
  | byte
  | word
  | shape
  | file
  | idEntry
  | var
  /-- An entry of the directory of variable spaces. -/
  | spacePlace
  | space
  | path
  | procedure
  | systemCall
  deriving DecidableEq, Repr

/-- The memory of a machine. -/
class Memory where
  /-- How many bytes a value takes. -/
  cellSize : Cell → Nat
  /-- Whether so many bytes can be had in one run. -/
  grants : Nat → Bool
  cellSize_byte : cellSize .byte = 1
  cellSize_word : cellSize .word = 4
  grants_zero : grants 0 = true
  /-- No run is longer than the offsets in it can be, which have a sign. -/
  lt_of_grants : ∀ bytes, grants bytes = true → bytes < 0x8000000000000000

namespace Memory

/-- There is room for as many values as a word can count. -/
class Ample [Memory] : Prop where
  grants_counted : ∀ (cell : Cell) (count : Nat), count < 0x100000000 →
    grants (count * cellSize cell) = true

theorem grants_bytes [Memory] [Ample] {count : Nat} (counted : count < 0x100000000) :
    grants count = true := by
  have granted := Ample.grants_counted .byte count counted
  rwa [cellSize_byte, Nat.mul_one] at granted

theorem grants_words [Memory] [Ample] {count : Nat} (counted : count < 0x100000000) :
    grants (count * 4) = true := by
  have granted := Ample.grants_counted .word count counted
  rwa [cellSize_word] at granted

/-- A machine with addresses of 47 bits.  No value takes more than 256 bytes. -/
instance standard : Memory where
  cellSize
    | .byte => 1
    | .word => 4
    | _ => 256
  grants bytes := bytes < 0x800000000000
  cellSize_byte := rfl
  cellSize_word := rfl
  grants_zero := rfl
  lt_of_grants bytes granted := Nat.lt_trans (of_decide_eq_true granted) (by decide)

instance : Ample where
  grants_counted cell count counted := by
    have small : cellSize cell ≤ 256 := by cases cell <;> decide
    have product := Nat.mul_le_mul_left count small
    apply decide_eq_true
    omega

end Memory

end CompiledModule
