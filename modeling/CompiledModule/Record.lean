import CompiledModule.FieldParser

namespace CompiledModule

/-!
# Records of a fixed size

The tables of a module are made of records that all have one size.  A record format is that size
together with the parser of the record's fields, and it carries the proof that the fields fill the
record exactly.  Cutting a record out of a table and then parsing it can therefore not run out of
bytes, and decoding is a plain function.
-/

/-- A run of bytes of a known length. -/
abbrev Bytes (size : Nat) := { bytes : List UInt8 // bytes.length = size }

namespace FieldParser

/-- The parser takes exactly `size` bytes from every input that has as many. -/
def Consumes (parser : FieldParser α) (size : Nat) : Prop :=
  ∀ input, size ≤ input.length → ∃ value, parser input = some (value, input.drop size)

theorem Consumes.pure (value : α) : Consumes (pure value) 0 :=
  fun _ _ => ⟨value, rfl⟩

theorem Consumes.bytes (count : Nat) : Consumes (bytes count) count :=
  fun input enough => ⟨input.take count, by simp [FieldParser.bytes, enough]⟩

theorem Consumes.byte : Consumes byte 1
  | [], enough => by simp at enough
  | first :: _, _ => ⟨first, rfl⟩

theorem Consumes.bind {first : FieldParser α} {next : α → FieldParser β} {front back : Nat}
    (consumesFirst : Consumes first front) (consumesNext : ∀ value, Consumes (next value) back) :
    Consumes (first >>= next) (back + front) := by
  intro input enough
  obtain ⟨value, parsed⟩ := consumesFirst input (by omega)
  obtain ⟨result, parsedNext⟩ := consumesNext value (input.drop front)
    (by rw [List.length_drop]; omega)
  refine ⟨result, ?_⟩
  rw [Nat.add_comm, ← List.drop_drop, ← parsedNext]
  show (first input).bind _ = _
  rw [parsed]
  rfl

theorem Consumes.word : Consumes word 4 :=
  (Consumes.bytes 4).bind fun _ => Consumes.pure _

theorem Consumes.vector {field : FieldParser α} {size : Nat} (consumes : Consumes field size) :
    ∀ count, Consumes (vector field count) (count * size)
  | 0 => by rw [Nat.zero_mul]; exact Consumes.pure _
  | count + 1 =>
    have total : (count + 1) * size = 0 + size + count * size := by
      rw [Nat.succ_mul, Nat.zero_add, Nat.add_comm]
    total ▸ (Consumes.vector consumes count).bind
      fun initial => consumes.bind fun last => Consumes.pure (initial.push last)

end FieldParser

/-- A record whose fields fill a fixed number of bytes. -/
structure Record (α : Type) where
  size : Nat
  parser : FieldParser α
  fills : parser.Consumes size

namespace Record

theorem parser_isSome (record : Record α) (bytes : Bytes record.size) :
    (record.parser bytes.val).isSome := by
  obtain ⟨value, parsed⟩ := record.fills bytes.val (Nat.le_of_eq bytes.property.symm)
  rw [parsed]
  rfl

def decode (record : Record α) (bytes : Bytes record.size) : α :=
  ((record.parser bytes.val).get (record.parser_isSome bytes)).1

theorem parser_eq_decode (record : Record α) (bytes : Bytes record.size) :
    record.parser bytes.val = some (record.decode bytes, []) := by
  obtain ⟨value, parsed⟩ := record.fills bytes.val (Nat.le_of_eq bytes.property.symm)
  have nothingLeft : bytes.val.drop record.size = [] :=
    List.drop_eq_nil_of_le (Nat.le_of_eq bytes.property)
  have decoded : record.decode bytes = value := by simp [decode, parsed]
  rw [parsed, nothingLeft, decoded]

end Record

end CompiledModule
