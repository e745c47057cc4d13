import CompiledModule.Proofs.Safety.Guarded
import CompiledModule.Section
import Mathlib.Algebra.Group.Nat.Defs

namespace CompiledModule

/-!
# Reading that asks before every operation

A reader adds to places without asking: to its position when it has read, and to the base when it
moves.  Neither sum is too large, because the reader never leaves its module and the module never
leaves the stream, whose end is a number of 64 bits.  A stream that ends far enough below the limit
leaves room for the places that a module states on top of that.

A record is taken apart field by field.  Its fields fill it exactly, so no field reaches past it.
-/

/-- The reader stands inside its module, the module ends with its stream, and a word can be added to
every place of the stream. -/
structure Reader.InRange (reader : Reader) : Prop where
  position : reader.position ≤ reader.length
  finish : reader.base + reader.length = reader.stream.length
  room : reader.stream.length + 2 ^ 32 < sizeLimit

namespace Guarded

def open? (stream : Stream) (base : Nat) : Except (Halt LoadError) Reader := do
  let atEnd ← stream.seekEnd.mapError fun fault => .error (.io .header fault)
  let finish := atEnd.cursor
  if finish < base then
    throw (.error (.truncated .header base 0 finish))
  let atBase ← (atEnd.seek base).mapError fun fault => .error (.io .header fault)
  let length ← difference finish base
  return { stream := atBase, base, length, position := 0, phase := .header }

def moveTo (place : Nat) : Guarded LoadError Reader Nat := fun reader =>
  if place = reader.position then .ok place reader
  else
    match sum reader.base place with
    | .error halt => .error halt reader
    | .ok target =>
      match reader.stream.seek target with
      | .ok stream => .ok place { reader with stream, position := place }
      | .error fault => .error (.error (.io reader.phase fault)) reader

def seek (target : Seek) : Guarded LoadError Reader Nat := fun reader =>
  let place := reader.destination target
  if 0 ≤ place ∧ place ≤ reader.length then moveTo place.toNat reader
  else .error (.error (.io reader.phase (.seekOutside target reader.length))) reader

def take (count : Nat) : Guarded LoadError Reader (Bytes count) := fun reader =>
  match Stream.read count reader.stream with
  | .error fault stream => .error (.error (.io reader.phase fault)) { reader with stream }
  | .ok bytes stream =>
    match sum reader.position count with
    | .error halt => .error halt { reader with stream }
    | .ok position => .ok bytes { reader with stream, position }

def fixed (count : Nat) : Guarded LoadError Reader (Bytes count) := do
  plain (Load.ensure count)
  take count

/-- The next record, taken apart into its fields. -/
def record (format : Record α) : Guarded LoadError Reader α := do
  let bytes ← fixed format.size
  settle (parse format.parser bytes.val)

def word : Guarded LoadError Reader UInt32 := do
  let bytes ← fixed 4
  settle (parse FieldParser.word bytes.val)

section Runs

variable [Memory]

def bytes (count : Nat) : Guarded LoadError Reader (List UInt8) := do
  plain (Load.ensure count)
  plain (Load.allocate .byte count)
  return (← fixed count).val

/-- The next `count` words, taken one after another from the bytes that were read. -/
def words (count : Nat) : Guarded LoadError Reader (List UInt32) := do
  if sizeLimit ≤ count * 4 then
    plain (Load.truncated (sizeLimit - 1))
  let bytes ← bytes (count * 4)
  plain (Load.allocate .word count)
  settle (parse (FieldParser.list FieldParser.word count) bytes)

/-- The name in the next slot, which is cut out of it up to the first zero byte. -/
def name (size : Nat) : Guarded LoadError Reader String := do
  let slot ← bytes size
  let name ← settle (slice slot 0 (slot.findIdx (· == 0)))
  return Utf8.decode name

end Runs

end Guarded

/-! ## Moving and reading a stream -/

theorem mapError_ok (function : ε → ε') (value : α) :
    (.ok value : Except ε α).mapError function = .ok value :=
  rfl

theorem mapError_eq_ok {outcome : Except ε α} {function : ε → ε'} {value : α}
    (succeeded : outcome.mapError function = .ok value) : outcome = .ok value := by
  cases outcome with
  | ok found => exact congrArg Except.ok (Except.ok.inj succeeded)
  | error error => cases succeeded

theorem Stream.seekEnd_eq_ok {stream atEnd : Stream} (moved : stream.seekEnd = .ok atEnd) :
    atEnd = { stream with cursor := stream.length } := by
  unfold seekEnd at moved
  split at moved <;> cases moved
  rfl

theorem Stream.length_seek {stream there : Stream} {place : Nat}
    (moved : stream.seek place = .ok there) : there.length = stream.length := by
  unfold seek at moved
  split at moved <;> cases moved
  rfl

theorem Stream.length_read (stream : Stream) (count : Nat) :
    (leftBy (Stream.read count stream)).length = stream.length := by
  unfold read
  split
  · rfl
  · dsimp only
    split <;> rfl

namespace Reader

theorem inRange_open {stream : Stream} {base : Nat} {reader : Reader}
    (opened : open? stream base = .ok reader) (room : stream.length + 2 ^ 32 < sizeLimit) :
    reader.InRange := by
  unfold open? at opened
  rcases bind_eq_ok.mp opened with ⟨atEnd, ended, opened⟩
  cases Stream.seekEnd_eq_ok (mapError_eq_ok ended)
  by_cases outside : stream.length < base
  · rw [if_pos outside] at opened
    cases opened
  rw [if_neg outside] at opened
  rcases bind_eq_ok.mp opened with ⟨atBase, moved, opened⟩
  have length := Stream.length_seek (mapError_eq_ok moved)
  cases opened
  constructor
  · exact Nat.zero_le _
  · simp only [length]
    omega
  · rwa [length]

variable {reader : Reader} {stream : Stream} {place : Nat}

theorem InRange.moved (inRange : reader.InRange) (same : stream.length = reader.stream.length)
    (inside : place ≤ reader.length) : InRange { reader with stream, position := place } where
  position := inside
  finish := inRange.finish.trans same.symm
  room := by
    rw [same]
    exact inRange.room

/-- The end of the module is a place in the stream. -/
theorem InRange.sum_lt (inRange : reader.InRange) (inside : place ≤ reader.length) :
    reader.base + place < sizeLimit := by
  have finish := inRange.finish
  have room := inRange.room
  omega

theorem InRange.position_lt (inRange : reader.InRange) (inside : place ≤ reader.length) :
    place < sizeLimit := by
  have sum := inRange.sum_lt inside
  omega

end Reader

/-! ## Taking words apart -/

theorem FieldParser.word_eq {input : List UInt8} (enough : 4 ≤ input.length) :
    word input = some (ByteOrder.file.word (input.take 4), input.drop 4) := by
  change (bytes 4 input).bind _ = _
  rw [bytes, if_pos enough]
  rfl

theorem FieldParser.list_word {count : Nat} {input : List UInt8}
    (whole : input.length = count * 4) : list word count input = some (splitWords count input, []) := by
  induction count generalizing input with
  | zero =>
    rw [Nat.zero_mul, List.length_eq_zero_iff] at whole
    rw [whole]
    rfl
  | succ count ih =>
    have rest : (input.drop 4).length = count * 4 := by
      rw [List.length_drop]
      omega
    change (word input).bind (fun (first, left) => (list word count left).bind _) = _
    rw [word_eq (by omega)]
    change (list word count (input.drop 4)).bind _ = _
    rw [ih rest]
    rfl

/-! ## Agreement -/

namespace Guarded

theorem open?_eq (stream : Stream) (base : Nat) :
    open? stream base = (Reader.open? stream base).mapError .error := by
  unfold open? Reader.open?
  cases stream.seekEnd with
  | error fault => rfl
  | ok atEnd =>
    simp only [mapError_ok, bind, Except.bind]
    by_cases outside : atEnd.cursor < base
    · simp only [if_pos outside]
      rfl
    simp only [if_neg outside]
    cases atEnd.seek base with
    | error fault => rfl
    | ok atBase =>
      simp only [mapError_ok, pure, Except.pure, difference_eq (Nat.not_lt.mp outside)]

theorem moveTo_agrees {reader : Reader} (inRange : reader.InRange) {place : Nat}
    (inside : place ≤ reader.length) :
    EndAlike noExcuse (fun s t => s = t ∧ t.InRange) (fun a b => a = b ∧ Unrestricted b)
      (moveTo place reader) (plain (Load.moveTo place) reader) := by
  simp only [moveTo, Load.moveTo, plain, EStateM.adaptExcept]
  by_cases there : place = reader.position
  · simp only [if_pos there]
    exact ⟨⟨rfl, trivial⟩, rfl, inRange⟩
  · simp only [if_neg there, sum_eq (inRange.sum_lt inside)]
    cases moved : reader.stream.seek (reader.base + place) with
    | ok stream => exact ⟨⟨rfl, trivial⟩, rfl, inRange.moved (Stream.length_seek moved) inside⟩
    | error fault => exact Or.inl ⟨rfl, rfl, inRange⟩

theorem seek_agrees (target : Seek) :
    Agrees Reader.InRange Unrestricted (seek target) (Load.seek target) := by
  rintro reader _ ⟨rfl, inRange⟩
  have moves := @moveTo_agrees reader inRange (reader.destination target).toNat
  simp only [seek, Load.seek, plain, EStateM.adaptExcept] at moves ⊢
  by_cases inside : 0 ≤ reader.destination target ∧ reader.destination target ≤ reader.length
  · simp only [if_pos inside]
    exact moves (by omega)
  · simp only [if_neg inside]
    exact Or.inl ⟨rfl, rfl, inRange⟩

theorem take_agrees {reader : Reader} (inRange : reader.InRange) {count : Nat}
    (fits : reader.position + count ≤ reader.length) :
    EndAlike noExcuse (fun s t => s = t ∧ t.InRange) (fun a b => a = b ∧ Unrestricted b)
      (take count reader) (plain (Load.take count) reader) := by
  have length := reader.stream.length_read count
  simp only [take, Load.take, plain, EStateM.adaptExcept]
  revert length
  cases Stream.read count reader.stream with
  | ok bytes stream =>
    intro length
    simp only [sum_eq (inRange.position_lt fits)]
    exact ⟨⟨rfl, trivial⟩, rfl, inRange.moved length fits⟩
  | error fault stream =>
    intro length
    exact Or.inl ⟨rfl, rfl, inRange.moved length inRange.position⟩

theorem ensure_agrees (count : Nat) :
    Agrees Reader.InRange Unrestricted (plain (Load.ensure count)) (Load.ensure count) := by
  apply Agrees.plain
  intro reader inRange
  rw [Load.ensure_eq]
  split <;> rename_i ended <;> split at ended <;> cases ended
  · exact ⟨trivial, inRange⟩
  · exact inRange

theorem truncated_agrees (count : Nat) :
    Agrees Reader.InRange Unrestricted (plain (Load.truncated count : Load α))
      (Load.truncated count) :=
  Agrees.plain fun _ inRange => inRange

/-- The bytes are taken only once they are known to be there. -/
theorem fixed_agrees (count : Nat) :
    Agrees Reader.InRange Unrestricted (fixed count) (Load.fixed count) := by
  rintro reader _ ⟨rfl, inRange⟩
  have takes := @take_agrees reader inRange count
  have ensured := Load.ensure_eq count reader
  simp only [fixed, Load.fixed, plain_bind]
  change EndAlike _ _ _ (EStateM.bind _ _ reader) (EStateM.bind _ _ reader)
  unfold EStateM.bind
  by_cases fits : reader.position + count ≤ reader.length
  · rw [if_pos fits] at ensured
    have passed := plain_eq_ok.mpr ensured
    simp only [passed]
    exact takes fits
  · rw [if_neg fits] at ensured
    simp only [plain, EStateM.adaptExcept, ensured]
    exact Or.inl ⟨rfl, rfl, inRange⟩

theorem record_agrees (format : Record α) :
    Agrees Reader.InRange Unrestricted (record format) (Load.record format) := by
  apply (fixed_agrees format.size).bind
  intro bytes _
  exact Agrees.settle (parse_eq (format.parser_eq_decode bytes)) trivial

theorem word_agrees : Agrees Reader.InRange Unrestricted word Load.word := by
  apply (fixed_agrees 4).bind
  rintro ⟨bytes, four⟩ _
  have parsed := FieldParser.word_eq (Nat.le_of_eq four.symm)
  rw [List.take_of_length_le (Nat.le_of_eq four), List.drop_of_length_le (Nat.le_of_eq four)]
    at parsed
  exact Agrees.settle (parse_eq parsed) trivial

theorem untilZero_eq_take (bytes : List UInt8) :
    untilZero bytes = bytes.take (bytes.findIdx (· == 0)) := by
  rw [untilZero, List.takeWhile_eq_take_findIdx_not]
  simp [bne]

variable [Memory]

theorem allocate_agrees (cell : Cell) (count : Nat) :
    Agrees Reader.InRange Unrestricted (plain (Load.allocate cell count))
      (Load.allocate cell count) := by
  apply Agrees.plain
  intro reader inRange
  rw [Load.allocate_eq]
  split <;> rename_i ended <;> split at ended <;> cases ended
  · exact ⟨trivial, inRange⟩
  · exact inRange

theorem bytes_agrees (count : Nat) :
    Agrees Reader.InRange (fun bytes => bytes.length = count) (bytes count) (Load.bytes count) := by
  apply (ensure_agrees count).bind
  intro _ _
  apply (allocate_agrees .byte count).bind
  intro _ _
  apply (fixed_agrees count).bind
  intro bytes _
  exact Agrees.pure bytes.property

theorem words_agrees (count : Nat) :
    Agrees Reader.InRange Unrestricted (words count) (Load.words count) := by
  have read : Agrees Reader.InRange Unrestricted
      (bytes (count * 4) >>= fun bytes => plain (Load.allocate .word count) >>= fun _ =>
        settle (parse (FieldParser.list FieldParser.word count) bytes))
      (Load.bytes (count * 4) >>= fun bytes => Load.allocate .word count >>= fun _ =>
        pure (splitWords count bytes)) := by
    apply (bytes_agrees (count * 4)).bind
    intro bytes whole
    apply (allocate_agrees .word count).bind
    intro _ _
    exact Agrees.settle (parse_eq (FieldParser.list_word whole)) trivial
  unfold words Load.words
  by_cases huge : sizeLimit ≤ count * 4
  · simp only [if_pos huge]
    apply (truncated_agrees _).bind
    intro _ _
    exact read
  · simp only [if_neg huge]
    exact read

theorem name_agrees (size : Nat) :
    Agrees Reader.InRange Unrestricted (name size) (Load.name size) := by
  apply (bytes_agrees size).bind
  intro slot _
  have cut : 0 ≤ slot.findIdx (· == 0) ∧ slot.findIdx (· == 0) ≤ slot.length :=
    ⟨Nat.zero_le _, List.findIdx_le_length⟩
  apply Agrees.settle_bind (slice_eq cut)
  rw [List.drop_zero, ← untilZero_eq_take]
  exact Agrees.pure trivial

end Guarded

end CompiledModule
