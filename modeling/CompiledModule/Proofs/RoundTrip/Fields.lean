import CompiledModule.ByteOrder.Lemmas
import CompiledModule.EmbeddedFile
import CompiledModule.Header
import CompiledModule.Procedure
import CompiledModule.Proofs.Text.Utf8
import CompiledModule.SystemCall

namespace CompiledModule

/-!
# Records and their bytes

The bytes that write a record are those from which its parser reads it again.  `Parses` says this of
a parser and a run of bytes, whatever follows the run, so that the fields of a record may be taken
one at a time, in the order in which they are stored.

Most records consist of words only.  For them one rule is enough, which takes the first word off the
parser and off the bytes; a record with as many words as the parser takes comes back with every word
in its own field.
-/

namespace FieldParser

/-- The parser takes these bytes, and no more, for this value. -/
def Parses (parser : FieldParser α) (part : List UInt8) (value : α) : Prop :=
  ∀ rest, parser (part ++ rest) = some (value, rest)

namespace Parses

theorem pure (value : α) : Parses (pure value) [] value :=
  fun _ => rfl

theorem bind {first : FieldParser α} {next : α → FieldParser β} {front back : List UInt8}
    {value : α} {result : β} (parses : Parses first front value)
    (goesOn : Parses (next value) back result) : Parses (first >>= next) (front ++ back) result := by
  intro rest
  change (first (front ++ back ++ rest)).bind (fun pair => next pair.1 pair.2) = _
  rw [List.append_assoc, parses (back ++ rest)]
  exact goesOn rest

theorem bytes {count : Nat} {part : List UInt8} (exactly : part.length = count) :
    Parses (bytes count) part part := by
  intro rest
  rw [← exactly]
  exact bytes_append part rest

theorem byte (value : UInt8) : Parses byte [value] value :=
  fun _ => rfl

theorem word (value : UInt32) : Parses word (storedWord value) value := by
  have four := bytes (length_storedWord value)
  have decoded : Parses (Pure.pure (ByteOrder.file.word (storedWord value)) : FieldParser UInt32)
      [] value := by
    unfold storedWord
    rw [ByteOrder.word_wordBytes]
    exact pure value
  have both : Parses FieldParser.word (storedWord value ++ []) value := four.bind decoded
  rw [List.append_nil] at both
  exact both

theorem word_bind {next : UInt32 → FieldParser α} {value : UInt32} {others : List UInt32}
    {result : α} (goesOn : Parses (next value) (storedWords others) result) :
    Parses (FieldParser.word >>= next) (storedWords (value :: others)) result := by
  unfold storedWords
  rw [List.flatMap_cons]
  exact (word value).bind goesOn

/-- The induction is on the length; the last element is read last. -/
theorem vector {field : FieldParser α} {encode : α → List UInt8}
    (parses : ∀ value, Parses field (encode value) value) :
    ∀ {count : Nat} (values : Vector α count),
      Parses (vector field count) (values.toList.flatMap encode) values
  | 0, values => by
    have none : values = #v[] := Vector.eq_empty
    rw [none]
    exact pure _
  | count + 1, values => by
    have split : values.toList = values.pop.toList ++ [values.back] := by
      have rebuilt := congrArg Vector.toList (Vector.push_pop_back values)
      rw [Vector.toList_push] at rebuilt
      exact rebuilt.symm
    have last : Parses (field >>= fun final => Pure.pure (values.pop.push final))
        (encode values.back ++ []) values := by
      apply (parses values.back).bind
      rw [Vector.push_pop_back]
      exact pure values
    rw [split, List.flatMap_append, List.flatMap_singleton, ← List.append_nil (encode _)]
    exact (vector parses values.pop).bind last

end Parses

end FieldParser

/-- The bytes of a value, as a record's parser and its size ask for them. -/
structure Record.Reads (record : Record α) (part : List UInt8) (value : α) : Prop where
  parses : record.parser.Parses part value
  length : part.length = record.size

theorem Record.Reads.decode {record : Record α} {part : List UInt8} {value : α}
    (reads : record.Reads part value) : record.decode ⟨part, reads.length⟩ = value := by
  have parsed := record.parser_eq_decode ⟨part, reads.length⟩
  have whole := reads.parses []
  rw [List.append_nil] at whole
  rw [whole] at parsed
  exact (Prod.mk.inj (Option.some.inj parsed)).1.symm

theorem length_flatMap_of_length {encode : α → List UInt8} {size : Nat}
    (length : ∀ entry, (encode entry).length = size) (entries : List α) :
    (entries.flatMap encode).length = entries.length * size := by
  induction entries with
  | nil => rw [List.flatMap_nil, List.length_nil, List.length_nil, Nat.zero_mul]
  | cons entry rest ih =>
    rw [List.flatMap_cons, List.length_append, ih, length, List.length_cons, Nat.succ_mul,
      Nat.add_comm]

theorem length_storedWords (words : List UInt32) : (storedWords words).length = words.length * 4 :=
  length_flatMap_of_length length_storedWord words

theorem splitWords_storedWords (words : List UInt32) :
    splitWords words.length (storedWords words) = words := by
  induction words with
  | nil => rfl
  | cons word rest ih =>
    have front : (storedWords (word :: rest)).take 4 = storedWord word :=
      List.take_left' (length_storedWord word)
    have back : (storedWords (word :: rest)).drop 4 = storedWords rest :=
      List.drop_left' (length_storedWord word)
    rw [List.length_cons, splitWords, front, back, ih]
    unfold storedWord
    rw [ByteOrder.word_wordBytes]

/-! ## The records of a module -/

open FieldParser

theorem Header.format_reads (header : Header) :
    Header.format.Reads header.encode (Header.magic, header) where
  parses := by
    have eight : Header.magic.length = 8 := rfl
    unfold Header.encode
    apply Parses.bind (Parses.bytes eight)
    rw [← List.append_nil (storedWords _)]
    refine Parses.bind ?_ (Parses.pure (Header.magic, header))
    unfold Header.fields
    iterate 29 apply Parses.word_bind
    exact Parses.pure _
  length := by
    unfold Header.encode
    rw [List.length_append, length_storedWords]
    rfl

theorem ProcedureShape.format_reads (shape : ProcedureShape) :
    ProcedureShape.format.Reads shape.encode shape where
  parses := by
    change ProcedureShape.fields.Parses _ shape
    unfold ProcedureShape.fields ProcedureShape.encode
    iterate 21 apply Parses.word_bind
    exact Parses.pure _
  length := by
    unfold ProcedureShape.encode
    rw [length_storedWords]
    rfl

theorem VariableSpace.entryFormat_reads (members : Section) :
    VariableSpace.entryFormat.Reads (VariableSpace.encodeEntry members) members where
  parses := by
    change (FieldParser.word >>= fun count => FieldParser.word >>= fun offset =>
      pure (⟨offset, count⟩ : Section)).Parses _ members
    unfold VariableSpace.encodeEntry
    iterate 2 apply Parses.word_bind
    exact Parses.pure _
  length := by
    unfold VariableSpace.encodeEntry
    rw [length_storedWords]
    rfl

theorem TypeDescriptor.fields_parses (type : TypeDescriptor) :
    TypeDescriptor.fields.Parses type.encode type := by
  have tags := Parses.vector Parses.byte (type.links.map Link.tag)
  have counts := Parses.vector Parses.word (type.links.map Link.count)
  have singles : ((type.links.map Link.tag).toList.flatMap fun tag => [tag]) =
      (type.links.map Link.tag).toList := List.flatMap_singleton' _
  have rebuilt : (type.links.map Link.tag).zipWith Link.mk (type.links.map Link.count) =
      type.links := by
    ext index bound
    simp
  rw [singles] at tags
  unfold TypeDescriptor.fields TypeDescriptor.encode
  rw [List.append_assoc]
  apply tags.bind
  apply counts.bind
  rw [← List.append_nil (storedWord _)]
  apply (Parses.word type.members).bind
  rw [rebuilt]
  exact Parses.pure _

theorem TypeDescriptor.length_encode (type : TypeDescriptor) : type.encode.length = 44 := by
  unfold TypeDescriptor.encode
  rw [List.length_append, List.length_append, length_storedWords, length_storedWord,
    Vector.length_toList, Vector.length_toList]

theorem Variable.format_reads (record : Variable) : Variable.format.Reads record.encode record where
  parses := by
    change (TypeDescriptor.fields >>= fun type => FieldParser.word >>= fun id =>
      FieldParser.word >>= fun offset => FieldParser.word >>= fun space =>
        pure (⟨type, id, offset, space⟩ : Variable)).Parses _ record
    unfold Variable.encode
    apply (TypeDescriptor.fields_parses record.type).bind
    iterate 3 apply Parses.word_bind
    exact Parses.pure _
  length := by
    unfold Variable.encode
    rw [List.length_append, TypeDescriptor.length_encode, length_storedWords]
    rfl

theorem EmbeddedFile.format_reads (nameSize : UInt32) (contents : Section) :
    EmbeddedFile.format.Reads (storedWords [nameSize, contents.count, contents.offset])
      (nameSize, contents) where
  parses := by
    change (FieldParser.word >>= fun nameSize => FieldParser.word >>= fun size =>
      FieldParser.word >>= fun offset =>
        pure ((nameSize, ⟨offset, size⟩) : UInt32 × Section)).Parses _ (nameSize, contents)
    iterate 3 apply Parses.word_bind
    exact Parses.pure _
  length := by
    rw [length_storedWords]
    rfl

theorem SystemCall.format_reads (call : SystemCall) :
    SystemCall.format.Reads
      (storedWords [call.nameCode, call.kind, call.params, call.callCode])
      { call with signature := [], binding := none } where
  parses := by
    change (FieldParser.word >>= fun nameCode => FieldParser.word >>= fun kind =>
      FieldParser.word >>= fun params => FieldParser.word >>= fun callCode =>
        pure (⟨nameCode, kind, params, callCode, [], none⟩ : SystemCall)).Parses _ _
    iterate 4 apply Parses.word_bind
    exact Parses.pure _
  length := by
    rw [length_storedWords]
    rfl

/-- An entry as its record keeps it.  The name is cut before its first zero byte, and it is cut at
63 bytes, since a zero byte has to have room in the slot.  That may be in the middle of a
character. -/
def IdEntry.stored (entry : IdEntry) : IdEntry :=
  ⟨entry.code, Utf8.decode (untilZero ((Utf8.encode entry.name).take 63))⟩

theorem IdEntry.stored_eq {entry : IdEntry} (zeroFree : Utf8.ZeroFree entry.name)
    (fits : (Utf8.encode entry.name).length ≤ 63) : entry.stored = entry := by
  rw [stored, List.take_of_length_le fits, untilZero_of_zeroFree zeroFree.encode,
    Utf8.decode_encode]

theorem IdTable.format_reads (entry : IdEntry) :
    IdTable.format.Reads (IdTable.encodeEntry entry) entry.stored where
  parses := by
    have slot : storedSlot (IdTable.nameSize - 1) (Utf8.encode entry.name) ++ [0] =
        (Utf8.encode entry.name).take 63 ++
          0 :: List.replicate (IdTable.nameSize - 1 - (Utf8.encode entry.name).length) 0 := by
      unfold storedSlot
      rw [List.append_assoc, ← List.replicate_succ', List.replicate_succ]
      rfl
    have size : (storedSlot (IdTable.nameSize - 1) (Utf8.encode entry.name) ++ [0]).length =
        IdTable.nameSize := by
      rw [List.length_append, length_storedSlot]
      rfl
    have named : nameOfSlot (storedSlot (IdTable.nameSize - 1) (Utf8.encode entry.name) ++ [0]) =
        entry.stored.name := by
      rw [slot, nameOfSlot, untilZero_append_zero]
      rfl
    change (FieldParser.bytes IdTable.nameSize >>= fun slot => FieldParser.word >>= fun code =>
      pure (⟨code, nameOfSlot slot⟩ : IdEntry)).Parses _ entry.stored
    unfold IdTable.encodeEntry
    apply (Parses.bytes size).bind
    rw [named, ← List.append_nil (storedWord _)]
    exact (Parses.word entry.code).bind (Parses.pure _)
  length := by
    unfold IdTable.encodeEntry
    rw [List.length_append, List.length_append, length_storedSlot, length_storedWord]
    rfl

end CompiledModule
