import CompiledModule.Proofs.Reading.InMemory
import CompiledModule.Proofs.RoundTrip.Fields

namespace CompiledModule

/-!
# Records have one written form

The bytes that write a record are read as that record.  Here is the other direction: whatever bytes a
record was decoded from, writing it gives these bytes again.  So nothing in a record is padding, no
field is read twice or not at all, and two runs of bytes that are decoded alike are one run.

`Keeps` says that a parser loses nothing: what it has taken so far together with what it is still to
take is the written form of its value.  The fields are taken off one at a time, and at the end the
words that were taken have to stand in the order in which they are written.

The header is the one record that is not accepted whatever its bytes are.  It must begin with the
eight bytes that every module begins with, and these are looked at before the version is.
-/

namespace FieldParser

/-- Behind `front`, whatever the parser takes is the rest of the written form of its value. -/
def Keeps (parser : FieldParser α) (front : List UInt8) (write : α → List UInt8) : Prop :=
  ∀ input value rest, parser input = some (value, rest) → front ++ input = write value ++ rest

namespace Keeps

theorem pure {front : List UInt8} {write : α → List UInt8} {value : α}
    (written : write value = front) : Keeps (pure value) front write := by
  intro input _ _ parsed
  cases parsed
  rw [written]

theorem bind {first : FieldParser α} {next : α → FieldParser β} {front : List UInt8}
    {encode : α → List UInt8} {write : β → List UInt8} (keeps : Keeps first [] encode)
    (goesOn : ∀ value, Keeps (next value) (front ++ encode value) write) :
    Keeps (first >>= next) front write := by
  intro input result rest parsed
  rcases Option.bind_eq_some_iff.mp parsed with ⟨⟨value, middle⟩, began, went⟩
  have taken : input = encode value ++ middle := keeps input value middle began
  rw [taken, ← List.append_assoc]
  exact goesOn value middle result rest went

theorem bytes (count : Nat) : Keeps (bytes count) [] id :=
  fun _ _ _ parsed => (bytes_eq_some parsed).2

theorem byte : Keeps byte [] fun value => [value] := by
  intro input value rest parsed
  cases input with
  | nil => cases parsed
  | cons first others =>
    cases parsed
    rfl

theorem word : Keeps word [] storedWord := by
  intro input value rest parsed
  rcases Option.bind_eq_some_iff.mp parsed with ⟨⟨four, middle⟩, taken, ended⟩
  rcases bytes_eq_some taken with ⟨length, split⟩
  cases ended
  rw [storedWord, ByteOrder.wordBytes_word _ _ length]
  exact split

/-- One more word has been taken behind other fields. -/
theorem word_bind {next : UInt32 → FieldParser α} {front : List UInt8} {taken : List UInt32}
    {write : α → List UInt8}
    (goesOn : ∀ value, Keeps (next value) (front ++ storedWords (taken ++ [value])) write) :
    Keeps (FieldParser.word >>= next) (front ++ storedWords taken) write := by
  apply word.bind
  intro value
  have more := goesOn value
  rwa [storedWords, List.flatMap_append, List.flatMap_singleton, ← List.append_assoc] at more

/-- The induction is on the length; the last element is taken last. -/
theorem vector {field : FieldParser α} {encode : α → List UInt8} (keeps : Keeps field [] encode)
    (count : Nat) :
    Keeps (vector field count) [] fun values => values.toList.flatMap encode := by
  induction count with
  | zero => exact pure rfl
  | succ count ih =>
    apply ih.bind
    intro initial
    apply keeps.bind
    intro last
    apply pure
    rw [Vector.toList_push, List.flatMap_append, List.flatMap_singleton, List.nil_append]

end Keeps

end FieldParser

/-- A record that is written again comes to the bytes that it was decoded from. -/
theorem Record.write_decode {format : Record α} {write : α → List UInt8}
    (keeps : format.parser.Keeps [] write) (bytes : Bytes format.size) :
    write (format.decode bytes) = bytes.val := by
  have whole := keeps bytes.val _ [] (format.parser_eq_decode bytes)
  rw [List.append_nil] at whole
  exact whole.symm

/-! ## The records of a module -/

open FieldParser

theorem ProcedureShape.format_keeps : ProcedureShape.format.parser.Keeps [] encode := by
  change ProcedureShape.fields.Keeps ([] ++ storedWords []) encode
  unfold ProcedureShape.fields
  iterate 21
    apply Keeps.word_bind
    intro _
  apply Keeps.pure
  simp only [encode, List.nil_append, List.cons_append]

theorem TypeDescriptor.fields_keeps : TypeDescriptor.fields.Keeps [] encode := by
  unfold TypeDescriptor.fields
  apply (Keeps.vector Keeps.byte 8).bind
  intro tags
  apply (Keeps.vector Keeps.word 8).bind
  intro counts
  apply Keeps.word.bind
  intro members
  have tagsBack : (tags.zipWith Link.mk counts).map Link.tag = tags := by
    ext index bound
    simp
  have countsBack : (tags.zipWith Link.mk counts).map Link.count = counts := by
    ext index bound
    simp
  apply Keeps.pure
  simp only [encode, tagsBack, countsBack, List.flatMap_singleton', List.nil_append]
  rfl

theorem Variable.format_keeps : Variable.format.parser.Keeps [] encode := by
  change Variable.fields.Keeps [] encode
  unfold Variable.fields
  apply TypeDescriptor.fields_keeps.bind
  intro type
  rw [List.nil_append, ← List.append_nil type.encode]
  change Keeps _ (type.encode ++ storedWords []) encode
  iterate 3
    apply Keeps.word_bind
    intro _
  apply Keeps.pure
  simp only [encode, List.nil_append, List.cons_append]

theorem EmbeddedFile.format_keeps :
    EmbeddedFile.format.parser.Keeps [] fun entry =>
      storedWords [entry.1, entry.2.count, entry.2.offset] := by
  change Keeps _ ([] ++ storedWords []) _
  iterate 3
    apply Keeps.word_bind
    intro _
  apply Keeps.pure
  simp only [List.nil_append, List.cons_append]

theorem SystemCall.format_keeps :
    SystemCall.format.parser.Keeps [] fun call =>
      storedWords [call.nameCode, call.kind, call.params, call.callCode] := by
  change Keeps _ ([] ++ storedWords []) _
  iterate 4
    apply Keeps.word_bind
    intro _
  apply Keeps.pure
  simp only [List.nil_append, List.cons_append]

/-- The first bytes of a header are kept whatever they are. -/
theorem Header.format_keeps :
    Header.format.parser.Keeps [] fun pair => pair.1 ++ pair.2.encode.drop 8 := by
  apply (Keeps.bytes 8).bind
  intro first
  change Keeps (Header.fields >>= fun header => pure (first, header)) _ _
  have words : Header.fields.Keeps ([] ++ storedWords []) fun header => header.encode.drop 8 := by
    unfold Header.fields
    iterate 29
      apply Keeps.word_bind
      intro _
    apply Keeps.pure
    simp only [encode, List.nil_append, List.cons_append]
    rfl
  apply words.bind
  intro header
  apply Keeps.pure
  rw [List.nil_append, id]

/-! ## The header of a module -/

namespace Header

/-- The first part of a header's bytes is cut out of them, not made from them. -/
theorem decode_fst (bytes : Bytes size) : (format.decode bytes).1 = bytes.val.take 8 := by
  have eight : 8 ≤ size := by decide
  have enough : 8 ≤ bytes.val.length := by rwa [bytes.property]
  have parsed := format.parser_eq_decode bytes
  rcases Option.bind_eq_some_iff.mp parsed with ⟨⟨first, middle⟩, taken, others⟩
  rcases Option.bind_eq_some_iff.mp others with ⟨⟨header, rest⟩, _, ended⟩
  rw [FieldParser.bytes, if_pos enough] at taken
  cases taken
  have whole := congrArg Prod.fst (Option.some.inj ended)
  exact (congrArg Prod.fst whole).symm

/-- Bytes are the written form of a header exactly when it is decoded from them, behind the bytes
that every module begins with. -/
theorem encode_eq_iff {header : Header} {bytes : Bytes size} :
    header.encode = bytes.val ↔ format.decode bytes = (magic, header) := by
  constructor
  · intro written
    have same : (⟨header.encode, (format_reads header).length⟩ : Bytes format.size) = bytes :=
      Subtype.ext written
    have decoded := (format_reads header).decode
    rwa [same] at decoded
  · intro decoded
    have kept := Record.write_decode format_keeps bytes
    rw [decoded] at kept
    exact kept

theorem take_encode {header : Header} {bytes : Bytes size} (written : header.encode = bytes.val) :
    bytes.val.take 8 = magic := by
  rw [← decode_fst, encode_eq_iff.mp written]

/-- Bytes that begin as every module does are the written form of a header. -/
theorem encode_decode {bytes : Bytes size} (known : bytes.val.take 8 = magic) :
    (format.decode bytes).2.encode = bytes.val := by
  apply encode_eq_iff.mpr
  rw [← known, ← decode_fst]

def front : Load (Bytes size) := do
  Load.enter .header
  let _ ← Load.seek (.start 0)
  Load.fixed size

/-- Why the bytes in a header's place are refused, if they are: they are no header, or they are the
header of an older module.  The version is not looked at in what is no header. -/
inductive Refuses (minimum : UInt32) (bytes : Bytes size) : LoadError → Prop
  | foreign (unknown : bytes.val.take 8 ≠ magic) :
    Refuses minimum bytes (.badMagic (bytes.val.take 8))
  | old (header : Header) (written : header.encode = bytes.val) (older : header.version < minimum) :
    Refuses minimum bytes (.unsupportedVersion header.version minimum)

/-- The header is what the first bytes make of it. -/
theorem read_eq_front (minimum : UInt32) :
    read minimum = front >>= fun bytes => do
      if bytes.val.take 8 ≠ magic then
        throw (.badMagic (bytes.val.take 8))
      if (format.decode bytes).2.version < minimum then
        throw (.unsupportedVersion (format.decode bytes).2.version minimum)
      return (format.decode bytes).2 := by
  simp only [read, front, Load.record, bind_assoc, pure_bind, ← decode_fst]
  rfl

theorem read_accepts {minimum : UInt32} {reader after : Reader} {header : Header}
    {bytes : Bytes size} (began : front reader = .ok bytes after)
    (written : header.encode = bytes.val) (recent : minimum ≤ header.version) :
    read minimum reader = .ok header after := by
  have known : ¬ bytes.val.take 8 ≠ magic := not_not_intro (take_encode written)
  have accepted : ¬ header.version < minimum := UInt32.not_lt.mpr recent
  rw [read_eq_front, run_bind_of_ok began, if_neg known, encode_eq_iff.mp written, if_neg accepted]
  rfl

theorem read_refuses {minimum : UInt32} {reader after : Reader} {error : LoadError}
    {bytes : Bytes size} (began : front reader = .ok bytes after)
    (refused : Refuses minimum bytes error) : read minimum reader = .error error after := by
  rw [read_eq_front, run_bind_of_ok began]
  cases refused with
  | foreign unknown =>
    rw [if_pos unknown]
    rfl
  | old header written older =>
    have known : ¬ bytes.val.take 8 ≠ magic := not_not_intro (take_encode written)
    rw [if_neg known, encode_eq_iff.mp written, if_pos older]
    rfl

/-- The first bytes are accepted, or there is a reason to refuse them. -/
theorem accepted_or_refused (minimum : UInt32) (bytes : Bytes size) :
    (∃ header : Header, header.encode = bytes.val ∧ minimum ≤ header.version) ∨
      ∃ error, Refuses minimum bytes error := by
  by_cases known : bytes.val.take 8 = magic
  · have written := encode_decode known
    by_cases older : (format.decode bytes).2.version < minimum
    · exact Or.inr ⟨_, .old _ written older⟩
    · exact Or.inl ⟨_, written, UInt32.not_lt.mp older⟩
  · exact Or.inr ⟨_, .foreign known⟩

theorem read_eq_ok {minimum : UInt32} {reader after left : Reader} {header : Header}
    {bytes : Bytes size} (began : front reader = .ok bytes after) :
    read minimum reader = .ok header left ↔
      header.encode = bytes.val ∧ minimum ≤ header.version ∧ left = after := by
  constructor
  · intro ended
    rcases accepted_or_refused minimum bytes with ⟨found, written, recent⟩ | ⟨error, refused⟩
    · rw [read_accepts began written recent] at ended
      cases ended
      exact ⟨written, recent, rfl⟩
    · rw [read_refuses began refused] at ended
      cases ended
  · intro accepted
    rcases accepted with ⟨written, recent, same⟩
    rw [same]
    exact read_accepts began written recent

theorem read_eq_error {minimum : UInt32} {reader after left : Reader} {error : LoadError}
    {bytes : Bytes size} (began : front reader = .ok bytes after) :
    read minimum reader = .error error left ↔ Refuses minimum bytes error ∧ left = after := by
  constructor
  · intro ended
    rcases accepted_or_refused minimum bytes with ⟨found, written, recent⟩ | ⟨other, refused⟩
    · rw [read_accepts began written recent] at ended
      cases ended
    · rw [read_refuses began refused] at ended
      cases ended
      exact ⟨refused, rfl⟩
  · intro failed
    rw [failed.2]
    exact read_refuses began failed.1

theorem read_of_front_error {minimum : UInt32} {reader after : Reader} {error : LoadError}
    (ended : front reader = .error error after) : read minimum reader = .error error after := by
  rw [read_eq_front]
  exact run_bind_of_error ended

/-- In memory the first bytes are had from everywhere in the module, if there are as many. -/
theorem front_over {contents : List UInt8} {base : Nat} (phase : Phase) (position : Nat)
    (whole : 0 + size ≤ contents.length - base) :
    front (.over contents base phase position) =
      .ok ⟨Load.bytesAt contents base 0 size, Load.length_bytesAt whole⟩
        (.over contents base .header size) := by
  have went : Load.seek (.start 0) (.over contents base .header position) =
      .ok 0 (.over contents base .header 0) := Load.seek_inside (Nat.zero_le _)
  have taken : Load.fixed size (.over contents base .header 0) = _ := Load.fixed_inside whole
  rw [Nat.zero_add] at taken
  refine (run_bind_of_ok rfl).trans ?_
  exact (run_bind_of_ok went).trans taken

end Header

/-- Headers, shapes of procedures and variables are written and read as one another.  Writing one
gives a run of the record's size, from which it is decoded; and decoding any run of that size gives a
record that is written as this run, where a header's run has to begin as every module does.

The header is read at the start of the module, wherever the reader stands before.  When its bytes
cannot be had, that is the error.  When they can, exactly the header that is written as these bytes
is given, if its version suffices; bytes that begin as no module does are refused for that, whatever
version would follow, and otherwise the version is refused. -/
theorem records_have_one_form :
    (∀ header : Header, ∃ whole : header.encode.length = 124,
      Header.format.decode ⟨header.encode, whole⟩ = (Header.magic, header)) ∧
    (∀ bytes : Bytes 124, bytes.val.take 8 = Header.magic →
      (Header.format.decode bytes).2.encode = bytes.val) ∧
    (∀ shape : ProcedureShape, ∃ whole : shape.encode.length = 84,
      ProcedureShape.format.decode ⟨shape.encode, whole⟩ = shape) ∧
    (∀ bytes : Bytes 84, (ProcedureShape.format.decode bytes).encode = bytes.val) ∧
    (∀ record : Variable, ∃ whole : record.encode.length = 56,
      Variable.format.decode ⟨record.encode, whole⟩ = record) ∧
    (∀ bytes : Bytes 56, (Variable.format.decode bytes).encode = bytes.val) ∧
    (∀ minimum reader,
      (∀ error after, Header.front reader = .error error after →
        Header.read minimum reader = .error error after) ∧
      ∀ bytes after, Header.front reader = .ok bytes after →
        (∀ header left, Header.read minimum reader = .ok header left ↔
          header.encode = bytes.val ∧ minimum ≤ header.version ∧ left = after) ∧
        ∀ error left, Header.read minimum reader = .error error left ↔
          Header.Refuses minimum bytes error ∧ left = after) ∧
    ∀ contents base phase position, 124 ≤ contents.length - base →
      ∃ whole : (Load.bytesAt contents base 0 124).length = 124,
        Header.front (.over contents base phase position) =
          .ok ⟨Load.bytesAt contents base 0 124, whole⟩ (.over contents base .header 124) := by
  refine ⟨?_, fun bytes => Header.encode_decode, ?_, Record.write_decode ProcedureShape.format_keeps,
    ?_, Record.write_decode Variable.format_keeps, ?_, ?_⟩
  · intro header
    exact ⟨(Header.format_reads header).length, (Header.format_reads header).decode⟩
  · intro shape
    exact ⟨(ProcedureShape.format_reads shape).length, (ProcedureShape.format_reads shape).decode⟩
  · intro record
    exact ⟨(Variable.format_reads record).length, (Variable.format_reads record).decode⟩
  · intro minimum reader
    refine ⟨fun error after => Header.read_of_front_error, fun bytes after began => ⟨?_, ?_⟩⟩
    · intro header left
      exact Header.read_eq_ok began
    · intro error left
      exact Header.read_eq_error began
  · intro contents base phase position enough
    have whole : 0 + Header.size ≤ contents.length - base := by
      rwa [Nat.zero_add]
    exact ⟨Load.length_bytesAt whole, Header.front_over phase position whole⟩

end CompiledModule
