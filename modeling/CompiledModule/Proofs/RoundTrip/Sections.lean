import CompiledModule.Proofs.Reading.Apart
import CompiledModule.Proofs.RoundTrip.Layout

namespace CompiledModule

/-!
# The sections of an image, read again

Each section of a module that is laid out comes back as what the image had in its place.  Tables of
records come back entry by entry.  The tables of files, of source files and of system calls have
entries of their own lengths; an entry begins with the length of what follows, and the length is
exact because the entry is no longer than the whole module.

The string pool comes back as its starts and its text.  Its strings are cut from the text again, each
from its start to the zero byte behind it, and a string that has no zero byte of its own comes back
whole.
-/

variable {contents : List UInt8} {base : Nat} {phase : Phase} {part : Section}

/-! ## Entries of tables -/

theorem nameOfSlot_zeroEnded {text : String} (zeroFree : Utf8.ZeroFree text) :
    nameOfSlot (zeroEnded text) = text :=
  nameOfSlot_append zeroFree []

/-- No entry is longer than the module that it stands in. -/
theorem Section.Holds.length_entry {encode : α → List UInt8} {entries : List α} {entry : α}
    (holds : part.Holds contents base entries.length (entries.flatMap encode))
    (small : contents.length ≤ largestModule) (member : entry ∈ entries) :
    (encode entry).length ≤ largestModule := by
  have inside := length_le_length_flatMap encode member
  have := holds.stands.fits
  omega

variable [Memory] [Memory.Ample]

/-- The name of a file or the path of a source file, behind its length.  It is the whole text only
when the text has no zero byte of its own. -/
theorem Load.Reads.slot {text : String} (small : (zeroEnded text).length ≤ largestModule) :
    Reads base (Load.name (storedCount (zeroEnded text).length).toNat) (zeroEnded text)
      (nameOfSlot (zeroEnded text)) := by
  have counted : (zeroEnded text).length < 2 ^ 32 := Nat.lt_of_le_of_lt small (by decide)
  rw [toNat_storedCount small]
  exact Reads.name rfl (Memory.grants_bytes counted)

theorem EmbeddedFile.readEntry_reads (name : String) (placed : Section)
    (small : (Image.fileEntry (name, placed)).length ≤ largestModule) :
    Load.Reads base EmbeddedFile.readEntry (Image.fileEntry (name, placed))
      ⟨nameOfSlot (zeroEnded name), base + placed.offset.toNat, placed.count⟩ := by
  have entry : Image.fileEntry (name, placed) =
      storedWords [storedCount (zeroEnded name).length, placed.count, placed.offset] ++
        zeroEnded name := by
    unfold Image.fileEntry EmbeddedFile.encodeEntry zeroEnded
    rw [List.append_assoc]
  rw [entry, List.length_append] at small
  rw [entry]
  apply (Load.Reads.record (EmbeddedFile.format_reads _ placed)).bind
  apply (Load.Reads.slot (by omega)).bind_nil
  apply Load.Reads.get_bind
  rintro reader rfl
  exact Load.Reads.pure _

theorem SourceListing.readPath_reads (path : String)
    (small : (Image.pathEntry path).length ≤ largestModule) :
    Load.Reads base SourceListing.readPath (Image.pathEntry path) (nameOfSlot (zeroEnded path)) := by
  have entry : Image.pathEntry path =
      storedWord (storedCount (zeroEnded path).length) ++ zeroEnded path := by
    unfold Image.pathEntry SourceListing.encodePath
    rw [List.append_assoc]
    rfl
  rw [entry, List.length_append] at small
  rw [entry]
  apply (Load.Reads.word _).bind
  exact Load.Reads.slot (by omega)

theorem SystemCall.readEntry_reads {call : SystemCall}
    (signature : call.signature.length = call.params.toNat) :
    Load.Reads base SystemCall.readEntry call.encode { call with binding := none } := by
  have room := Memory.grants_bytes call.params.toNat_lt
  unfold SystemCall.encode
  apply (Load.Reads.record (SystemCall.format_reads call)).bind
  exact (Load.Reads.bytes signature room).bind_pure fun signature =>
    ({ call with signature, binding := none } : SystemCall)

/-! ## Tables -/

theorem Section.Holds.comes_variables {vars : List Variable}
    (holds : part.Holds contents base vars.length (vars.flatMap Variable.encode)) :
    Load.ComesTo contents base phase phase (Variable.readTable part) (.ok vars) :=
  holds.comes_records .var fun record _ => Variable.format_reads record

/-- Whatever was written, its codes come back, and its names as far as they were stored. -/
theorem Section.Holds.comes_names {entries : List IdEntry}
    (holds : part.Holds contents base entries.length (entries.flatMap IdTable.encodeEntry)) :
    Load.ComesTo contents base phase phase (IdTable.read part)
      (.ok (.ofList (entries.map IdEntry.stored))) := by
  have table : Load.ComesTo contents base phase phase (part.records .idEntry IdTable.format)
      (.ok (entries.map IdEntry.stored)) := by
    apply holds.comes_table .idEntry
    · intro entry _
      exact Load.Reads.record (IdTable.format_reads entry)
    · intro entry _
      exact Nat.le_of_eq (IdTable.format_reads entry).length.symm
  exact table.map IdTable.ofList

theorem Section.Holds.comes_ids {entries : List IdEntry}
    (holds : part.Holds contents base entries.length (entries.flatMap IdTable.encodeEntry))
    (names : ∀ entry ∈ entries, Utf8.ZeroFree entry.name ∧
      (Utf8.encode entry.name).length ≤ IdTable.nameSize - 1) :
    Load.ComesTo contents base phase phase (IdTable.read part) (.ok (.ofList entries)) := by
  have kept : entries.map IdEntry.stored = entries.map id := by
    apply List.map_congr_left
    intro entry member
    rcases names entry member with ⟨zeroFree, fits⟩
    exact IdEntry.stored_eq zeroFree fits
  have comes : Load.ComesTo contents base phase phase (IdTable.read part) _ := holds.comes_names
  rwa [kept, List.map_id] at comes

/-- The directory of spaces and then the table of each space. -/
theorem Section.Holds.comes_spaces {spaces : List VariableSpace} {tables : List Section}
    (holds : part.Holds contents base tables.length (tables.flatMap VariableSpace.encodeEntry))
    (members : List.Forall₂ (fun space table => table.Holds contents base space.length
      (space.flatMap Variable.encode)) spaces tables) :
    Load.ComesTo contents base phase phase (VariableSpace.readAll part) (.ok spaces) := by
  have directory : Load.ComesTo contents base phase phase
      (part.records .spacePlace VariableSpace.entryFormat) (.ok tables) :=
    holds.comes_records .spacePlace fun table _ => VariableSpace.entryFormat_reads table
  have each : List.Forall₂ (fun table space =>
      Load.ComesTo contents base phase phase (Variable.readTable table) (.ok space))
      tables spaces := by
    apply List.Forall₂.flip
    apply members.imp
    intro space table stands
    exact stands.comes_variables
  apply directory.bind_ok
  rw [Load.allocate_counted .space holds.counted]
  exact .mapM each

theorem Section.Holds.comes_shapes {shapes : List ProcedureShape}
    (holds : part.Holds contents base shapes.length (shapes.flatMap ProcedureShape.encode)) :
    Load.ComesTo contents base phase phase (ProcedureShape.readTable part) (.ok shapes) :=
  holds.comes_records .shape fun shape _ => ProcedureShape.format_reads shape

theorem Section.Holds.comes_files {files : List (String × Section)}
    (holds : part.Holds contents base files.length (files.flatMap Image.fileEntry))
    (small : contents.length ≤ largestModule) (names : ∀ file ∈ files, Utf8.ZeroFree file.1) :
    Load.ComesTo contents base phase phase (EmbeddedFile.readTable part)
      (.ok (files.map fun file => ⟨file.1, base + file.2.offset.toNat, file.2.count⟩)) := by
  apply holds.comes_table .file
  · intro file member
    have reads : Load.Reads base _ _ _ :=
      EmbeddedFile.readEntry_reads file.1 file.2 (holds.length_entry small member)
    rwa [nameOfSlot_zeroEnded (names file member)] at reads
  · intro file _
    exact Image.length_fileEntry file

theorem Section.Holds.comes_paths {paths : List String}
    (holds : part.Holds contents base paths.length (paths.flatMap Image.pathEntry))
    (small : contents.length ≤ largestModule) (names : ∀ path ∈ paths, Utf8.ZeroFree path) :
    Load.ComesTo contents base phase phase (SourceListing.readPaths part) (.ok paths) := by
  have table : Load.ComesTo contents base phase phase (SourceListing.readPaths part)
      (.ok (paths.map id)) := by
    apply holds.comes_table .path
    · intro path member
      have reads : Load.Reads base _ _ _ :=
        SourceListing.readPath_reads path (holds.length_entry small member)
      rwa [nameOfSlot_zeroEnded (names path member)] at reads
    · intro path _
      exact Image.length_pathEntry path
  rw [List.map_id] at table
  exact table

theorem Section.Holds.comes_calls {calls : List SystemCall}
    (holds : part.Holds contents base calls.length (calls.flatMap SystemCall.encode))
    (signatures : ∀ call ∈ calls, call.signature.length = call.params.toNat) :
    Load.ComesTo contents base phase phase (SystemCall.readTable part)
      (.ok (calls.map fun call => { call with binding := none })) := by
  apply holds.comes_table .systemCall
  · intro call member
    exact SystemCall.readEntry_reads (signatures call member)
  · intro call _
    exact Image.length_callEntry call

end CompiledModule
